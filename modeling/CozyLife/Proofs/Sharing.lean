import CozyLife.Api.Overlap
import CozyLife.Proofs.Custody

/-! Who holds the sockets of a client that requests share, and where it is written what was done on
each of them. -/

namespace CozyLife
open Python Effects Threads

/-- What holds on to a connection: a transport, or a request that talks to the relay. -/
inductive Place
  | transport (r : Nat)
  | request (i : Nat)
  deriving DecidableEq

def Place.isTransport : Place → Bool
  | .transport _ => true
  | .request _ => false

def Deed.event : Deed → Option Event
  | .did e => some e
  | _ => none

def Moment.event : Moment → Option Event
  | .did e => some e
  | _ => none

/-- What a request did, of all it did and found. -/
def Moment.events (ms : List Moment) : List Event := ms.filterMap Moment.event

theorem Moment.events_append (ms ms' : List Moment) :
    Moment.events (ms ++ ms') = Moment.events ms ++ Moment.events ms' := List.filterMap_append

theorem Moment.events_did (evs : List Event) : Moment.events (evs.map .did) = evs := by
  rw [Moment.events, List.filterMap_map]
  exact List.filterMap_some

/-- The events on socket `n`. -/
def Event.on (n : Nat) (evs : List Event) : List Event :=
  evs.filter (fun e => e.socket = some n)

theorem Event.on_append (n : Nat) (evs evs' : List Event) :
    Event.on n (evs ++ evs') = Event.on n evs ++ Event.on n evs' := List.filter_append ..

theorem Event.on_eq_nil {n : Nat} {evs : List Event} :
    Event.on n evs = [] ↔ ∀ e ∈ evs, e.socket ≠ some n := by
  simp [Event.on, List.filter_eq_nil_iff]

def SharedTransport.events (t : SharedTransport) : List Event :=
  t.journal.filterMap (fun d => d.2.event)

def Event.opens : Event → Option Nat
  | .opened n => some n
  | _ => none

/-- The sockets that the events open. -/
def newSockets (evs : List Event) : List Nat := evs.filterMap Event.opens

/-- The world when that has happened since. -/
def World.past (w : World) (evs : List Event) : World :=
  { w with trace := w.trace ++ evs, sockets := w.sockets + (newSockets evs).length }

theorem newSockets_append (evs evs' : List Event) :
    newSockets (evs ++ evs') = newSockets evs ++ newSockets evs' := List.filterMap_append

theorem newSockets_none {evs : List Event} (h : ∀ e ∈ evs, e.opens = none) : newSockets evs = [] :=
  List.filterMap_eq_nil_iff.mpr h

theorem World.past_still {evs : List Event} (h : newSockets evs = []) (w : World) :
    w.past evs = { w with trace := w.trace ++ evs } := by
  simp only [World.past, h, List.length_nil, Nat.add_zero]

section Past

variable {w : World} {evs : List Event}

theorem World.past_sockets (h : newSockets evs = [] ∨ newSockets evs = [w.sockets]) :
    w.sockets ≤ (w.past evs).sockets ∧ (w.past evs).sockets ≤ w.sockets + 1 := by
  rcases h with h | h <;> simp [World.past, h]

theorem World.past_new (h : newSockets evs = [] ∨ newSockets evs = [w.sockets]) {n : Nat}
    (hn : n ∈ newSockets evs) : n = w.sockets ∧ n < (w.past evs).sockets := by
  rcases h with h | h
  · rw [h] at hn
    cases hn
  · rw [h, List.mem_singleton] at hn
    refine ⟨hn, ?_⟩
    simp [World.past, h, hn]

end Past

namespace SharedClient

variable {s s' : SharedClient} {p p' : Place} {n : Nat} {evs : List Event}

/-- The socket a place holds on to. -/
def held (s : SharedClient) : Place → Option Nat
  | .transport r => (s.transports r).self.conn.map (·.sock)
  | .request i => s.own i

/-- What a request did on the sockets. -/
def done (s : SharedClient) (i : Nat) : List Event := Moment.events (s.history i)

theorem done_eq {i : Nat} (h : s'.history i = s.history i) : s'.done i = s.done i := by
  rw [done, h, done]

theorem done_append {i : Nat} {ms : List Moment} (h : s'.history i = s.history i ++ ms) :
    s'.done i = s.done i ++ Moment.events ms := by
  rw [done, h, Moment.events_append, done]

theorem adding_history (s : SharedClient) (i : Nat) (ms : List Moment) :
    (s.adding i ms).history i = s.history i ++ ms := Function.update_self ..

theorem adding_other {i j : Nat} (hj : j ≠ i) (s : SharedClient) (ms : List Moment) :
    (s.adding i ms).history j = s.history j := Function.update_of_ne hj ..

theorem adding_adding (s : SharedClient) (i : Nat) (ms ms' : List Moment) :
    (s.adding i ms).adding i ms' = s.adding i (ms ++ ms') := by
  simp only [adding, Function.update_self, Function.update_idem, List.append_assoc]

theorem adding_nil (s : SharedClient) (i : Nat) : s.adding i [] = s := by
  rw [adding, List.append_nil, Function.update_eq_self]

/-- What a request finds is nothing it does. -/
theorem adding_done {ms : List Moment} (hms : ∀ m ∈ ms, m.event = none) (s : SharedClient)
    (i j : Nat) : (s.adding i ms).done j = s.done j := by
  by_cases hj : j = i
  · subst hj
    rw [done_append (adding_history s j ms), Moment.events, List.filterMap_eq_nil_iff.mpr hms,
      List.append_nil]
  · exact done_eq (adding_other hj s ms)

/-- What was done at a place. -/
def record (s : SharedClient) : Place → List Event
  | .transport r => (s.transports r).events
  | .request i => s.done i

/-- All that happened on socket `n` was done at `p`: through one transport, whichever requests did it,
or by one request and through no transport. -/
def Belongs (s : SharedClient) (n : Nat) (p : Place) : Prop :=
  Event.on n s.world.trace = Event.on n (s.record p) ∧
    ∀ p', p' ≠ p → (p.isTransport = true → p'.isTransport = true) → Event.on n (s.record p') = []

/-- The open sockets are those the places hold on to, each one of its own, and each socket belongs to
one place. -/
structure Sockets (s : SharedClient) : Prop where
  opens : ∀ n, n ∈ openSockets s.world.trace ↔ ∃ p, s.held p = some n
  nodup : (openSockets s.world.trace).Nodup
  unique : ∀ {p p' n}, s.held p = some n → s.held p' = some n → p = p'
  belongs : ∀ {p n}, s.held p = some n → s.Belongs n p
  owned : ∀ n < s.world.sockets, ∃ p, s.Belongs n p
  known : ∀ e ∈ s.world.trace, ∀ n, e.socket = some n → n < s.world.sockets
  written : ∀ p, ∀ e ∈ s.record p, e ∈ s.world.trace

theorem Sockets.of_eq (h : Sockets s) (ht : s'.world.trace = s.world.trace)
    (hs : s'.world.sockets = s.world.sockets) (hheld : ∀ p, s'.held p = s.held p)
    (hrecord : ∀ p, s'.record p = s.record p) : Sockets s' := by
  have hbelongs (n : Nat) (p : Place) : s'.Belongs n p ↔ s.Belongs n p := by
    simp only [Belongs, ht, hrecord]
  refine ⟨?_, ?_, ?_, ?_, ?_, ?_, ?_⟩
  · simpa only [ht, hheld] using h.opens
  · rw [ht]
    exact h.nodup
  · intro p p' n hp hp'
    rw [hheld] at hp hp'
    exact h.unique hp hp'
  · intro p n hp
    rw [hheld] at hp
    exact (hbelongs n p).mpr (h.belongs hp)
  · intro n hn
    rw [hs] at hn
    obtain ⟨p, hp⟩ := h.owned n hn
    exact ⟨p, (hbelongs n p).mpr hp⟩
  · rw [ht, hs]
    exact h.known
  · intro p e he
    rw [hrecord] at he
    rw [ht]
    exact h.written p e he

theorem Sockets.below (h : Sockets s) (hp : s.held p = some n) : n < s.world.sockets := by
  have hopen : n ∈ openSockets s.world.trace := (h.opens n).mpr ⟨p, hp⟩
  rcases mem_track hopen with hmem | hopened
  · cases hmem
  · exact h.known _ hopened n rfl

/-- What a step at place `p` does: the events go on on the socket held there, or open the next one. -/
structure Moves (s s' : SharedClient) (p : Place) (evs : List Event) : Prop where
  trace : s'.world.trace = s.world.trace ++ evs
  sockets : s.world.sockets ≤ s'.world.sockets ∧ s'.world.sockets ≤ s.world.sockets + 1
  stays : ∀ e ∈ evs, ∀ n, e.socket = some n →
    s.held p = some n ∨ n = s.world.sockets ∧ n < s'.world.sockets
  track : evs.foldl Event.track (s.held p).toList = (s'.held p).toList
  others : ∀ p', p' ≠ p → s'.held p' = s.held p'
  record : s'.record p = s.record p ++ evs
  records : ∀ p', p' ≠ p → s'.record p' = s.record p' ∨
    p.isTransport = true ∧ p'.isTransport = false ∧ s'.record p' = s.record p' ++ evs

theorem Sockets.fresh (h : Sockets s) :
    Event.on s.world.sockets s.world.trace = [] ∧
      ∀ p', Event.on s.world.sockets (s.record p') = [] := by
  have hnew (e : Event) (he : e ∈ s.world.trace) : e.socket ≠ some s.world.sockets :=
    fun hsock => Nat.lt_irrefl _ (h.known e he _ hsock)
  exact ⟨Event.on_eq_nil.mpr hnew,
    fun p' => Event.on_eq_nil.mpr (fun e he => hnew e (h.written p' e he))⟩

/-- A socket that belongs to the place of the step goes on belonging to it. -/
theorem Moves.belongs (hm : Moves s s' p evs) (h : s.Belongs n p) : s'.Belongs n p := by
  obtain ⟨htrace, hothers⟩ := h
  refine ⟨?_, ?_⟩
  · rw [hm.trace, hm.record, Event.on_append, Event.on_append, htrace]
  · intro p' hp' hkind
    rcases hm.records p' hp' with hsame | ⟨hp, hrequest, _⟩
    · rw [hsame]
      exact hothers p' hp' hkind
    · rw [hkind hp] at hrequest
      cases hrequest

/-- A socket that the step leaves alone belongs where it did. -/
theorem Moves.apart (hm : Moves s s' p evs) (hn : Event.on n evs = []) (h : s.Belongs n p') :
    s'.Belongs n p' := by
  have hrecord (q : Place) : Event.on n (s'.record q) = Event.on n (s.record q) := by
    by_cases hq : q = p
    · rw [hq, hm.record, Event.on_append, hn, List.append_nil]
    · rcases hm.records q hq with hsame | ⟨_, _, hmore⟩
      · rw [hsame]
      · rw [hmore, Event.on_append, hn, List.append_nil]
  obtain ⟨htrace, hothers⟩ := h
  refine ⟨?_, ?_⟩
  · rw [hm.trace, Event.on_append, hn, List.append_nil, htrace, hrecord]
  · intro q hq hkind
    rw [hrecord]
    exact hothers q hq hkind

theorem Moves.new (hm : Moves s s' p evs) (h : Sockets s) : s'.Belongs s.world.sockets p := by
  obtain ⟨htrace, hrecord⟩ := h.fresh
  exact hm.belongs ⟨by rw [htrace, hrecord], fun p' _ _ => hrecord p'⟩

/-- The socket held after the step was held before it, or is the one it opened. -/
theorem Moves.holds (hm : Moves s s' p evs) (hp : s'.held p = some n) :
    s.held p = some n ∨ n = s.world.sockets ∧ n < s'.world.sockets := by
  have hmem : n ∈ evs.foldl Event.track (s.held p).toList := by
    rw [hm.track, hp]
    exact List.mem_singleton_self n
  rcases mem_track hmem with hold | hopened
  · exact .inl (Option.mem_toList.mp hold)
  · exact hm.stays _ hopened n rfl

/-- The sockets of other places stay open behind that of `p`. -/
theorem Moves.opens (hm : Moves s s' p evs) (h : Sockets s) :
    (openSockets s'.world.trace).Perm ((s'.held p).toList ++
      (openSockets s.world.trace).filter (fun n => s.held p ≠ some n)) := by
  have hsplit : (openSockets s.world.trace).Perm ((s.held p).toList ++
      (openSockets s.world.trace).filter (fun n => s.held p ≠ some n)) := by
    cases hp : s.held p with
    | none => simp
    | some m =>
      have hm' : m ∈ openSockets s.world.trace := (h.opens m).mpr ⟨p, hp⟩
      have hfilter : (openSockets s.world.trace).filter (fun n => some m ≠ some n) =
          (openSockets s.world.trace).erase m := by
        rw [h.nodup.erase_eq_filter]
        apply List.filter_congr
        intro n _
        by_cases hmn : m = n
        · simp [hmn]
        · have hnm : n ≠ m := fun heq => hmn heq.symm
          simp [hmn, hnm]
      rw [hfilter]
      exact List.perm_cons_erase hm'
  have hrest : ∀ n ∈ (openSockets s.world.trace).filter (fun n => s.held p ≠ some n),
      Event.closed n ∉ evs := by
    intro n hn hclosed
    obtain ⟨hopen, hne⟩ := List.mem_filter.mp hn
    rcases hm.stays _ hclosed n rfl with hheld | ⟨hnew, _⟩
    · simp [hheld] at hne
    · obtain ⟨q, hq⟩ := (h.opens n).mp hopen
      exact Nat.lt_irrefl _ (hnew ▸ h.below hq)
  have hall : openSockets s'.world.trace = evs.foldl Event.track (openSockets s.world.trace) := by
    rw [hm.trace, openSockets, List.foldl_append]
    rfl
  rw [hall, ← hm.track, ← track_append hrest]
  exact track_perm evs hsplit

theorem Sockets.step (h : Sockets s) (hm : Moves s s' p evs) : Sockets s' := by
  have hperm := hm.opens h
  -- a socket of another place is none of those that `p` works on
  have hother {q : Place} {n : Nat} (hq : q ≠ p) (hn : s.held q = some n) :
      s'.held p ≠ some n ∧ Event.on n evs = [] := by
    have hne : s.held p ≠ some n := fun hp => hq (h.unique hn hp)
    have hold : ¬ (n = s.world.sockets ∧ n < s'.world.sockets) :=
      fun hnew => Nat.lt_irrefl _ (hnew.1 ▸ h.below hn)
    refine ⟨fun hp => (hm.holds hp).elim hne hold, Event.on_eq_nil.mpr ?_⟩
    exact fun e he hsock => (hm.stays e he n hsock).elim hne hold
  refine ⟨?_, ?_, ?_, ?_, ?_, ?_, ?_⟩
  · intro n
    rw [hperm.mem_iff, List.mem_append, Option.mem_toList, List.mem_filter, h.opens]
    constructor
    · rintro (hp | ⟨⟨q, hq⟩, hne⟩)
      · exact ⟨p, hp⟩
      · have hqp : q ≠ p := by
          intro heq
          subst heq
          simp [hq] at hne
        exact ⟨q, by rw [hm.others q hqp, hq]⟩
    · rintro ⟨q, hq⟩
      by_cases hqp : q = p
      · exact .inl (hqp ▸ hq)
      · rw [hm.others q hqp] at hq
        have hne : s.held p ≠ some n := fun hp => hqp (h.unique hq hp)
        exact .inr ⟨⟨q, hq⟩, by simpa using hne⟩
  · refine hperm.nodup_iff.mpr (List.nodup_append.mpr ⟨?_, h.nodup.filter _, ?_⟩)
    · cases s'.held p <;> simp
    · intro n hn m hm' heq
      subst heq
      obtain ⟨hopen, hne⟩ := List.mem_filter.mp hm'
      obtain ⟨q, hq⟩ := (h.opens n).mp hopen
      have hqp : q ≠ p := by
        intro heq
        subst heq
        simp [hq] at hne
      exact (hother hqp hq).1 (Option.mem_toList.mp hn)
  · intro q q' n hq hq'
    by_cases hqp : q = p
    · by_cases hqp' : q' = p
      · rw [hqp, hqp']
      · rw [hm.others q' hqp'] at hq'
        exact absurd (hqp ▸ hq) (hother hqp' hq').1
    · rw [hm.others q hqp] at hq
      by_cases hqp' : q' = p
      · exact absurd (hqp' ▸ hq') (hother hqp hq).1
      · rw [hm.others q' hqp'] at hq'
        exact h.unique hq hq'
  · intro q n hq
    by_cases hqp : q = p
    · subst hqp
      rcases hm.holds hq with hold | ⟨rfl, _⟩
      · exact hm.belongs (h.belongs hold)
      · exact hm.new h
    · rw [hm.others q hqp] at hq
      exact hm.apart (hother hqp hq).2 (h.belongs hq)
  · intro n hn
    by_cases hnew : n = s.world.sockets
    · exact ⟨p, hnew ▸ hm.new h⟩
    · by_cases hheld : s.held p = some n
      · exact ⟨p, hm.belongs (h.belongs hheld)⟩
      · have hlt : n < s.world.sockets := by
          have := hm.sockets.2
          omega
        obtain ⟨q, hq⟩ := h.owned n hlt
        refine ⟨q, hm.apart (Event.on_eq_nil.mpr ?_) hq⟩
        exact fun e he hsock => (hm.stays e he n hsock).elim hheld (fun h => hnew h.1)
  · rw [hm.trace]
    intro e he n hsock
    rcases List.mem_append.mp he with he | he
    · exact (h.known e he n hsock).trans_le hm.sockets.1
    · rcases hm.stays e he n hsock with hheld | ⟨_, hlt⟩
      · exact (h.below hheld).trans_le hm.sockets.1
      · exact hlt
  · intro q e he
    rw [hm.trace, List.mem_append]
    by_cases hqp : q = p
    · rw [hqp, hm.record, List.mem_append] at he
      exact he.imp_left (h.written p e)
    · rcases hm.records q hqp with hsame | ⟨_, _, hmore⟩
      · rw [hsame] at he
        exact .inl (h.written q e he)
      · rw [hmore, List.mem_append] at he
        exact he.imp_left (h.written q e)

end SharedClient

end CozyLife

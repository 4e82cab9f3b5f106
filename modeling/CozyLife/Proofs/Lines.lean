import CozyLife.Api.Wire

namespace CozyLife
open Python Effects

/-- The non-empty lines that are complete in a stream. -/
def completeLines (s : Bytes) : List Bytes :=
  (Delimited.records 0x0D 0x0A s).filter (fun l => l ≠ [])

/-- What follows the last terminator of a stream. -/
def unterminated (s : Bytes) : Bytes := Delimited.tail 0x0D 0x0A s

/-- The bytes an event takes off a socket. -/
def Event.chunk : Event → Bytes
  | .read _ _ chunk => chunk
  | _ => []

def received (evs : List Event) : Bytes := evs.flatMap Event.chunk

theorem received_append (evs evs' : List Event) :
    received (evs ++ evs') = received evs ++ received evs' := List.flatMap_append

namespace Lines

theorem completeLines_append (s t : Bytes) :
    completeLines (s ++ t) = completeLines s ++ completeLines (unterminated s ++ t) := by
  simp only [completeLines, unterminated, Delimited.records_append s t, List.filter_append]

theorem unterminated_append (s t : Bytes) :
    unterminated (s ++ t) = unterminated (unterminated s ++ t) := Delimited.tail_append s t

theorem completeLines_cut (h : partitionLine s = some (l, r)) :
    completeLines s = (if l = [] then [] else [l]) ++ completeLines r := by
  simp only [completeLines, Delimited.records_some h, List.filter_cons]
  by_cases hl : l = [] <;> simp [hl]

/-- A loop body that always asks for the next line. -/
def listen (_ : Unit) (_ : Bytes) : Verdict Unit Empty := .next ()

section Drain

variable {body : β → Bytes → Verdict β α}

theorem drain_none (h : partitionLine buffer = none) :
    drain body b buffer = ([], buffer, .next b) := by
  rw [drain]
  split <;> simp_all

theorem drain_blank (h : partitionLine buffer = some ([], rest)) :
    drain body b buffer = drain body b rest := by
  rw [drain]
  split <;> simp_all

theorem drain_next (h : partitionLine buffer = some (line, rest)) (hl : line ≠ [])
    (hv : body b line = .next b') : drain body b buffer =
      (line :: (drain body b' rest).1, (drain body b' rest).2) := by
  rw [drain]
  split <;> simp_all

theorem drain_stop (h : partitionLine buffer = some (line, rest)) (hl : line ≠ [])
    (hv : ∀ b', body b line ≠ .next b') : drain body b buffer = ([line], rest, body b line) := by
  rw [drain]
  split
  · simp_all
  · rename_i l r hc
    rw [h] at hc
    obtain ⟨rfl, rfl⟩ := Prod.mk.inj (Option.some.inj hc)
    rw [if_neg hl]
    cases hb : body b line with
    | next b' => exact absurd hb (hv b')
    | leave a => rfl
    | raise e => rfl

theorem completeLines_record {s : Bytes} (h : partitionLine s = some (l, r)) (hl : l ≠ [])
    (t : Bytes) : completeLines (l ++ 0x0D :: 0x0A :: t) = l :: completeLines t ∧
      unterminated (l ++ 0x0D :: 0x0A :: t) = unterminated t := by
  have hc : partitionLine (l ++ 0x0D :: 0x0A :: t) = some (l, t) := Delimited.cut_replace h t
  refine ⟨?_, Delimited.tail_some hc⟩
  rw [completeLines_cut hc, if_neg hl, List.singleton_append]

theorem completeLines_blank {s : Bytes} (h : partitionLine s = some ([], r)) (t : Bytes) :
    completeLines (0x0D :: 0x0A :: t) = completeLines t ∧
      unterminated (0x0D :: 0x0A :: t) = unterminated t := by
  have hc : partitionLine (0x0D :: 0x0A :: t) = some ([], t) := Delimited.cut_replace h t
  refine ⟨?_, Delimited.tail_some hc⟩
  rw [completeLines_cut hc, if_pos rfl, List.nil_append]

theorem completeLines_nil : completeLines [] = [] ∧ unterminated [] = [] := by
  have hc : Delimited.cut (0x0D : UInt8) 0x0A [] = none := rfl
  simp [completeLines, unterminated, Delimited.records_none hc, Delimited.tail_none hc]

/-- Draining gives the body the lines at the front of the buffer, in order, and leaves every byte
behind them. -/
theorem drain_passed (body : β → Bytes → Verdict β α) (b : β) (buffer : Bytes) :
    ∃ passed, buffer = passed ++ (drain body b buffer).2.1 ∧
      completeLines passed = (drain body b buffer).1 ∧ unterminated passed = [] := by
  induction buffer using Delimited.cut_induction (x := (0x0D : UInt8)) (y := 0x0A) generalizing b with
  | stop s h =>
    rw [drain_none h]
    exact ⟨[], rfl, completeLines_nil⟩
  | step s l r h ih =>
    have hs : s = l ++ 0x0D :: 0x0A :: r := Delimited.cut_eq h
    by_cases hl : l = []
    · subst hl
      rw [drain_blank h]
      obtain ⟨passed, hp, hlines, hopen⟩ := ih b
      obtain ⟨hlines', hopen'⟩ := completeLines_blank h passed
      refine ⟨0x0D :: 0x0A :: passed, ?_, hlines'.trans hlines, hopen'.trans hopen⟩
      rw [hs]
      simpa using hp
    · cases hv : body b l with
      | next b' =>
        rw [drain_next h hl hv]
        obtain ⟨passed, hp, hlines, hopen⟩ := ih b'
        obtain ⟨hlines', hopen'⟩ := completeLines_record h hl passed
        refine ⟨l ++ 0x0D :: 0x0A :: passed, ?_, ?_, hopen'.trans hopen⟩
        · rw [hs]
          simpa using hp
        · rw [hlines', hlines]
      | leave | raise =>
        rw [drain_stop h hl (by simp [hv])]
        obtain ⟨hlines, hopen⟩ := completeLines_record h hl []
        rw [completeLines_nil.1] at hlines
        exact ⟨l ++ [0x0D, 0x0A], by simpa using hs, hlines, hopen.trans completeLines_nil.2⟩

/-- A body that leaves has been given the front of the buffer and one line more. Every byte behind
that line is still there. -/
theorem drain_left (h : (drain body b buffer).2.2 = .leave a) :
    ∃ passed rest line, buffer = passed ++ rest ∧
      partitionLine rest = some (line, (drain body b buffer).2.1) ∧ line ≠ [] ∧
      (drain body b buffer).1 = completeLines passed ++ [line] ∧ unterminated passed = [] := by
  induction buffer using Delimited.cut_induction (x := (0x0D : UInt8)) (y := 0x0A) generalizing b with
  | stop s hc => simp [drain_none hc] at h
  | step s l r hc ih =>
    have hs : s = l ++ 0x0D :: 0x0A :: r := Delimited.cut_eq hc
    by_cases hl : l = []
    · subst hl
      rw [drain_blank hc] at h ⊢
      obtain ⟨passed, rest, line, hp, hcut, hne, hlines, hopen⟩ := ih h
      obtain ⟨hlines', hopen'⟩ := completeLines_blank hc passed
      refine ⟨0x0D :: 0x0A :: passed, rest, line, ?_, hcut, hne, ?_, hopen'.trans hopen⟩
      · rw [hs, hp]
        simp
      · rw [hlines', hlines]
    · cases hv : body b l with
      | next b'' =>
        rw [drain_next hc hl hv] at h ⊢
        obtain ⟨passed, rest, line, hp, hcut, hne, hlines, hopen⟩ := ih h
        obtain ⟨hlines', hopen'⟩ := completeLines_record hc hl passed
        refine ⟨l ++ 0x0D :: 0x0A :: passed, rest, line, ?_, hcut, hne, ?_, hopen'.trans hopen⟩
        · rw [hs, hp]
          simp
        · rw [hlines', hlines, List.cons_append]
      | leave a =>
        rw [drain_stop hc hl (by simp [hv])] at h ⊢
        obtain ⟨hnil, hopen⟩ := completeLines_nil
        exact ⟨[], s, l, rfl, hc, hl, by rw [hnil, List.nil_append], hopen⟩
      | raise e => rw [drain_stop hc hl (by simp [hv])] at h; simp [hv] at h

end Drain

section Pull

variable (conn : LineSocket) (deadline : ℚ) (turn : Turn)

/-- Every pass adds to the buffer exactly what it takes off the socket. -/
theorem pull_buffer : (conn.pull deadline turn).2.1.buffer =
    conn.buffer ++ received (conn.pull deadline turn).1 := by
  by_cases hd : deadline - turn.now ≤ 0
  · simp only [LineSocket.pull, hd, ↓reduceIte, received, List.flatMap_nil, List.append_nil]
  · cases hr : turn.read <;>
      simp only [LineSocket.pull, hd, hr, ↓reduceIte, received, Event.chunk, List.flatMap_cons,
        List.flatMap_nil, List.append_nil]

theorem pull_sock : (conn.pull deadline turn).2.1.sock = conn.sock := by
  by_cases hd : deadline - turn.now ≤ 0
  · simp only [LineSocket.pull, hd, ↓reduceIte]
  · cases hr : turn.read <;> simp only [LineSocket.pull, hd, hr, ↓reduceIte]

/-- Unless it goes on, a pass takes nothing off the socket. -/
theorem pull_stopped (h : (conn.pull deadline turn).2.2 ≠ .more) :
    received (conn.pull deadline turn).1 = [] := by
  by_cases hd : deadline - turn.now ≤ 0
  · simp only [LineSocket.pull, hd, ↓reduceIte, received, List.flatMap_nil]
  · cases hr : turn.read with
    | received chunk =>
      simp only [LineSocket.pull, hd, hr, ↓reduceIte] at h ⊢
      by_cases hc : chunk = []
      · rw [hc]; rfl
      · exact absurd (if_neg hc) h
    | settimeoutFailed | timedOut | failed =>
      simp only [LineSocket.pull, hd, hr, ↓reduceIte]
      rfl

/-- A pass only ever reads. -/
theorem pull_reads : ∀ e ∈ (conn.pull deadline turn).1, ∃ mode chunk,
    e = .read conn.sock mode chunk := by
  by_cases hd : deadline - turn.now ≤ 0
  · simp only [LineSocket.pull, hd, ↓reduceIte, List.not_mem_nil, false_implies, implies_true]
  · cases hr : turn.read <;> simp [LineSocket.pull, hd, hr]

/-- All a pass itself can raise: what `settimeout` raises goes through as it is. -/
def ReadError (e : Exn) : Prop := e.isTransport = true ∨ ∃ text, e = .os text

theorem pull_error (h : (conn.pull deadline turn).2.2 = .raised e) : ReadError e := by
  by_cases hd : deadline - turn.now ≤ 0
  · simp [LineSocket.pull, hd] at h
  · cases hr : turn.read with
    | settimeoutFailed text =>
      simp only [LineSocket.pull, hd, hr, ↓reduceIte, Pull.raised.injEq] at h
      exact .inr ⟨text, h.symm⟩
    | timedOut => simp [LineSocket.pull, hd, hr] at h
    | failed fault =>
      simp only [LineSocket.pull, hd, hr, ↓reduceIte, Pull.raised.injEq] at h
      exact .inl (h ▸ rfl)
    | received chunk =>
      simp only [LineSocket.pull, hd, hr, ↓reduceIte] at h
      split at h <;> cases h

end Pull

/-- A socket whose buffer the loop body has been given its lines from. -/
def drained (body : β → Bytes → Verdict β α) (b : β) (conn : LineSocket) : LineSocket :=
  { conn with buffer := (drain body b conn.buffer).2.1 }

theorem lines_leave {body : β → Bytes → Verdict β α} {conn : LineSocket} {turns : List Turn}
    (hd : (drain body b conn.buffer).2.2 = .leave a) : conn.lines body deadline turns b =
      ⟨(drain body b conn.buffer).1, [], drained body b conn, .left a⟩ := by
  cases turns <;> rw [LineSocket.lines] <;> simp only [hd, drained]

theorem lines_raise {body : β → Bytes → Verdict β α} {conn : LineSocket} {turns : List Turn}
    (hd : (drain body b conn.buffer).2.2 = .raise e) : conn.lines body deadline turns b =
      ⟨(drain body b conn.buffer).1, [], drained body b conn, .raised e⟩ := by
  cases turns <;> rw [LineSocket.lines] <;> simp only [hd, drained]

/-- The paths of the loop over the lines: the body ends it, the socket ends it, or a pass brings more
bytes and it goes on. -/
inductive Reads (body : β → Bytes → Verdict β α) (deadline : ℚ) :
    List Turn → β → LineSocket → Reading β α → Prop
  | left (turns b conn a) (hd : (drain body b conn.buffer).2.2 = .leave a) :
      Reads body deadline turns b conn
        ⟨(drain body b conn.buffer).1, [], drained body b conn, .left a⟩
  | threw (turns b conn e) (hd : (drain body b conn.buffer).2.2 = .raise e) :
      Reads body deadline turns b conn
        ⟨(drain body b conn.buffer).1, [], drained body b conn, .raised e⟩
  | timeUp (b conn b') (hd : (drain body b conn.buffer).2.2 = .next b') :
      Reads body deadline [] b conn
        ⟨(drain body b conn.buffer).1, [], drained body b conn, .ended b'⟩
  | ended (turn turns b conn b') (hd : (drain body b conn.buffer).2.2 = .next b')
      (hp : ((drained body b conn).pull deadline turn).2.2 = .ended) :
      Reads body deadline (turn :: turns) b conn
        ⟨(drain body b conn.buffer).1, ((drained body b conn).pull deadline turn).1,
          ((drained body b conn).pull deadline turn).2.1, .ended b'⟩
  | raised (turn turns b conn b' e) (hd : (drain body b conn.buffer).2.2 = .next b')
      (hp : ((drained body b conn).pull deadline turn).2.2 = .raised e) :
      Reads body deadline (turn :: turns) b conn
        ⟨(drain body b conn.buffer).1, ((drained body b conn).pull deadline turn).1,
          ((drained body b conn).pull deadline turn).2.1, .raised e⟩
  | more (turn turns b conn b' r) (hd : (drain body b conn.buffer).2.2 = .next b')
      (hp : ((drained body b conn).pull deadline turn).2.2 = .more)
      (hr : Reads body deadline turns b' ((drained body b conn).pull deadline turn).2.1 r) :
      Reads body deadline (turn :: turns) b conn
        ⟨(drain body b conn.buffer).1 ++ r.given,
          ((drained body b conn).pull deadline turn).1 ++ r.events, r.conn, r.exit⟩

theorem lines_reads (body : β → Bytes → Verdict β α) (deadline : ℚ) (turns : List Turn) (b : β)
    (conn : LineSocket) : Reads body deadline turns b conn (conn.lines body deadline turns b) := by
  induction turns generalizing b conn with
  | nil =>
    cases hd : (drain body b conn.buffer).2.2 with
    | leave a => exact lines_leave hd ▸ .left [] b conn a hd
    | raise e => exact lines_raise hd ▸ .threw [] b conn e hd
    | next b' => simpa only [LineSocket.lines, hd, drained] using Reads.timeUp b conn b' hd
  | cons turn turns ih =>
    cases hd : (drain body b conn.buffer).2.2 with
    | leave a => exact lines_leave hd ▸ .left _ b conn a hd
    | raise e => exact lines_raise hd ▸ .threw _ b conn e hd
    | next b' =>
      rcases hp : (drained body b conn).pull deadline turn with ⟨evs, conn', stop⟩
      have hp' := hp
      simp only [drained] at hp'
      cases stop with
      | more =>
        have h := Reads.more turn turns b conn b' _ hd (by rw [hp]) (ih b' _)
        rw [LineSocket.lines]
        simpa only [hd, hp, hp'] using h
      | ended =>
        have h := Reads.ended turn turns b conn b' hd (by rw [hp])
        simpa only [LineSocket.lines, hd, hp, hp'] using h
      | raised e =>
        have h := Reads.raised turn turns b conn b' e hd (by rw [hp])
        simpa only [LineSocket.lines, hd, hp, hp'] using h

section Reads

variable {body : β → Bytes → Verdict β α} {deadline : ℚ} {turns : List Turn} {b : β}
  {conn : LineSocket} {r : Reading β α}

theorem Reads.sock (h : Reads body deadline turns b conn r) : r.conn.sock = conn.sock := by
  induction h with
  | left | threw | timeUp => rfl
  | ended | raised => exact pull_sock _ _ _
  | more _ _ _ _ _ _ _ _ _ ih => exact ih.trans (pull_sock _ _ _)

/-- The loop only ever reads, and only from its own socket. -/
theorem Reads.events (h : Reads body deadline turns b conn r) :
    ∀ e ∈ r.events, ∃ mode chunk, e = .read conn.sock mode chunk := by
  induction h with
  | left | threw | timeUp => simp
  | ended _ _ b conn | raised _ _ b conn => exact pull_reads (drained _ b conn) _ _
  | more turn turns b conn b' r hd hp hr ih =>
    intro e he
    rcases List.mem_append.mp he with he | he
    · exact pull_reads (drained _ b conn) _ _ e he
    · have := ih e he
      rwa [pull_sock] at this

/-- One loop over the lines takes whole lines off the front of what it has and gets, gives them to
its body in order, and leaves every byte behind them. -/
theorem Reads.passed (h : Reads body deadline turns b conn r) :
    ∃ passed, conn.buffer ++ received r.events = passed ++ r.conn.buffer ∧
      completeLines passed = r.given ∧ unterminated passed = [] := by
  induction h with
  | left turns b conn | threw turns b conn | timeUp b conn =>
    simp only [received, List.flatMap_nil, List.append_nil]
    exact drain_passed body b conn.buffer
  | ended turn turns b conn _ hd hp | raised turn turns b conn _ _ hd hp =>
    have hr := pull_stopped (drained body b conn) deadline turn (by rw [hp]; simp)
    have hb := pull_buffer (drained body b conn) deadline turn
    rw [hr, List.append_nil] at hb
    simp only [hr, hb, List.append_nil]
    exact drain_passed body b conn.buffer
  | more turn turns b conn b' r hd hp hr ih =>
    obtain ⟨before, hbuf, hlines, hopen⟩ := drain_passed body b conn.buffer
    obtain ⟨passed, hs, hgiven, hwhole⟩ := ih
    rw [pull_buffer, List.append_assoc] at hs
    refine ⟨before ++ passed, ?_, ?_, ?_⟩
    · rw [received_append, hbuf, List.append_assoc, List.append_assoc, ← hs]
      rfl
    · rw [completeLines_append, hopen, hlines, List.nil_append, hgiven]
    · rw [unterminated_append, hopen, List.nil_append, hwhole]

/-- What the body was given and what is left in the buffer are, in order, what was in the buffer
before and what arrived. -/
theorem Reads.stream (h : Reads body deadline turns b conn r) :
    completeLines (conn.buffer ++ received r.events) = r.given ++ completeLines r.conn.buffer ∧
      unterminated (conn.buffer ++ received r.events) = unterminated r.conn.buffer := by
  obtain ⟨passed, hs, hgiven, hwhole⟩ := h.passed
  rw [hs, completeLines_append, unterminated_append, hwhole, hgiven]
  exact ⟨rfl, rfl⟩

/-- A loop its body leaves has consumed the lines it was given and nothing behind them. -/
theorem Reads.left_at (h : Reads body deadline turns b conn r) (hx : r.exit = .left a) :
    ∃ passed rest line, conn.buffer ++ received r.events = passed ++ rest ∧
      partitionLine rest = some (line, r.conn.buffer) ∧ line ≠ [] ∧
      r.given = completeLines passed ++ [line] ∧ unterminated passed = [] := by
  induction h with
  | left turns b conn a' hd =>
    simp only [received, List.flatMap_nil, List.append_nil]
    exact drain_left hd
  | threw | timeUp | ended | raised => cases hx
  | more turn turns b conn b' r hd hp hr ih =>
    obtain ⟨before, hbuf, hlines, hopen⟩ := drain_passed body b conn.buffer
    obtain ⟨passed, rest, line, hs, hcut, hne, hgiven, hwhole⟩ := ih hx
    rw [pull_buffer, List.append_assoc] at hs
    refine ⟨before ++ passed, rest, line, ?_, hcut, hne, ?_, ?_⟩
    · rw [received_append, hbuf, List.append_assoc, List.append_assoc, ← hs]
      rfl
    · rw [hgiven, completeLines_append, hopen, hlines, List.nil_append, List.append_assoc]
    · rw [unterminated_append, hopen, List.nil_append, hwhole]

end Reads

/-- A loop whose body raises nothing raises only what the socket does. -/
theorem Reads.error (h : Reads body deadline turns b conn r) (hbody : ∀ b l e, body b l ≠ .raise e)
    (hx : r.exit = .raised e) : ReadError e := by
  have hdrain : ∀ b s, (drain body b s).2.2 ≠ .raise e := by
    intro b s hd
    induction s using Delimited.cut_induction (x := (0x0D : UInt8)) (y := 0x0A) generalizing b with
    | stop s hc => simp [drain_none hc] at hd
    | step s l r hc ih =>
      by_cases hl : l = []
      · subst hl
        rw [drain_blank hc] at hd
        exact ih b hd
      · cases hv : body b l with
        | next b' =>
          rw [drain_next hc hl hv] at hd
          exact ih b' hd
        | leave a => rw [drain_stop hc hl (by simp [hv])] at hd; simp [hv] at hd
        | raise e' => exact hbody b l e' hv
  induction h with
  | left | timeUp | ended => cases hx
  | threw turns b conn e' hd =>
    cases hx
    exact absurd hd (hdrain b _)
  | raised turn turns b conn b' e' hd hp =>
    cases hx
    exact pull_error _ _ _ hp
  | more _ _ _ _ _ _ _ _ _ ih => exact ih hx

/-! ### The first decisive line

A body that remembers nothing is decided by the first line it does not pass over. Which lines there
are to come, and what stops them, does not depend on the body. -/

theorem drain_listen (s : Bytes) :
    drain listen () s = (completeLines s, unterminated s, .next ()) := by
  induction s using Delimited.cut_induction (x := (0x0D : UInt8)) (y := 0x0A) with
  | stop s h =>
    rw [drain_none h]
    simp [completeLines, unterminated, Delimited.records_none h, Delimited.tail_none h]
  | step s l r h ih =>
    rw [completeLines_cut h, show unterminated s = unterminated r from Delimited.tail_some h]
    by_cases hl : l = []
    · subst hl
      rw [drain_blank h, ih, if_pos rfl, List.nil_append]
    · rw [drain_next h hl rfl, ih, if_neg hl]
      rfl

/-- The lines a loop that never leaves is given. -/
def heard (conn : LineSocket) (deadline : ℚ) (turns : List Turn) : List Bytes :=
  (conn.lines listen deadline turns ()).given

/-- What stops a loop that never leaves: the end of the lines, or an exception of the socket. -/
def silence (conn : LineSocket) (deadline : ℚ) (turns : List Turn) : Option Exn :=
  match (conn.lines listen deadline turns ()).exit with
  | .raised e => some e
  | _ => none

theorem silence_error (h : silence conn deadline turns = some e) : ReadError e := by
  unfold silence at h
  split at h
  · cases h
    exact (lines_reads listen deadline turns () conn).error (fun _ _ _ => by simp [listen]) ‹_›
  · cases h

variable {v : Unit → Bytes → Verdict Unit α}

/-- Draining a buffer either passes every complete line or stops at the first decisive one. -/
theorem drain_decision (v : Unit → Bytes → Verdict Unit α) (s : Bytes) :
    ((∀ l ∈ completeLines s, v () l = .next ()) ∧
      drain v () s = (completeLines s, unterminated s, .next ())) ∨
    ∃ pre l post, completeLines s = pre ++ l :: post ∧ (∀ p ∈ pre, v () p = .next ()) ∧
      v () l ≠ .next () ∧ (drain v () s).1 = pre ++ [l] ∧ (drain v () s).2.2 = v () l := by
  induction s using Delimited.cut_induction (x := (0x0D : UInt8)) (y := 0x0A) with
  | stop s h =>
    left
    rw [drain_none h]
    simp [completeLines, unterminated, Delimited.records_none h, Delimited.tail_none h]
  | step s l r h ih =>
    rw [completeLines_cut h, show unterminated s = unterminated r from Delimited.tail_some h]
    by_cases hl : l = []
    · subst hl
      rwa [drain_blank h, if_pos rfl, List.nil_append]
    · rw [if_neg hl, List.singleton_append]
      by_cases hv : v () l = .next ()
      · rw [drain_next h hl hv]
        rcases ih with ⟨hall, hd⟩ | ⟨pre, k, post, he, hpre, hk, hg, hd⟩
        · left
          refine ⟨?_, by rw [hd]⟩
          intro k hk
          rcases List.mem_cons.mp hk with rfl | hk
          · exact hv
          · exact hall k hk
        · right
          refine ⟨l :: pre, k, post, by rw [he]; rfl, ?_, hk, by rw [hg]; rfl, hd⟩
          intro p hp
          rcases List.mem_cons.mp hp with rfl | hp
          · exact hv
          · exact hpre p hp
      · right
        rw [drain_stop h hl (fun b' => by cases b'; exact hv)]
        exact ⟨[], l, completeLines r, rfl, by simp, hv, rfl, rfl⟩

/-- The two ways a loop with a forgetful body goes. -/
inductive Decision (v : Unit → Bytes → Verdict Unit α) (conn : LineSocket) (deadline : ℚ)
    (turns : List Turn) (r : Reading Unit α) : Prop
  | undecided (hall : ∀ l ∈ heard conn deadline turns, v () l = .next ())
      (hgiven : r.given = heard conn deadline turns)
      (hexit : r.exit = match silence conn deadline turns with
        | some e => .raised e
        | none => .ended ())
  | decided (pre : List Bytes) (l : Bytes) (post : List Bytes)
      (hheard : heard conn deadline turns = pre ++ l :: post)
      (hpre : ∀ p ∈ pre, v () p = .next ()) (hgiven : r.given = pre ++ [l])
      (hexit : (∃ a, v () l = .leave a ∧ r.exit = .left a) ∨
        ∃ e, v () l = .raise e ∧ r.exit = .raised e)

/-- What a loop that never leaves still hears after a pass that ended so. -/
def Pull.rest (stop : Pull) (lines : List Bytes) : List Bytes :=
  match stop with
  | .more => lines
  | _ => []

def Pull.silence (stop : Pull) (later : Option Exn) : Option Exn :=
  match stop with
  | .more => later
  | .ended => none
  | .raised e => some e

theorem listen_cons (turns : List Turn) (hp : ({ conn with buffer := unterminated conn.buffer } :
      LineSocket).pull deadline turn = (evs, conn', stop)) :
    heard conn deadline (turn :: turns) =
        completeLines conn.buffer ++ Pull.rest stop (heard conn' deadline turns) ∧
      silence conn deadline (turn :: turns) = Pull.silence stop (silence conn' deadline turns) := by
  unfold heard silence
  rw [LineSocket.lines, drain_listen]
  cases stop <;> simp [hp, Pull.rest, Pull.silence]

/-- A loop whose body is decided by a line of the buffer never looks at the socket. -/
theorem decision_of_buffer {conn : LineSocket} {rest : List Bytes} {turns : List Turn}
    (hh : heard conn deadline turns = completeLines conn.buffer ++ rest)
    (he : completeLines conn.buffer = pre ++ l :: post) (hpre : ∀ p ∈ pre, v () p = .next ())
    (hl : v () l ≠ .next ()) (hg : (drain v () conn.buffer).1 = pre ++ [l])
    (hd : (drain v () conn.buffer).2.2 = v () l) :
    Decision v conn deadline turns (conn.lines v deadline turns ()) := by
  have hheard : heard conn deadline turns = pre ++ l :: (post ++ rest) := by
    rw [hh, he, List.append_assoc, List.cons_append]
  cases hv : v () l with
  | next b => exact absurd hv hl
  | leave a =>
    rw [lines_leave (hd.trans hv), hg]
    exact .decided pre l _ hheard hpre rfl (.inl ⟨a, hv, rfl⟩)
  | raise e =>
    rw [lines_raise (hd.trans hv), hg]
    exact .decided pre l _ hheard hpre rfl (.inr ⟨e, hv, rfl⟩)

/-- A pass that brings more only puts the lines of the buffer in front. -/
theorem Decision.prepend {r : Reading Unit α} (h : Decision v conn' deadline turns r)
    (hall : ∀ l ∈ ls, v () l = .next ())
    (hh : heard conn deadline turns' = ls ++ heard conn' deadline turns)
    (hs : silence conn deadline turns' = silence conn' deadline turns) (evs : List Event) :
    Decision v conn deadline turns' { r with given := ls ++ r.given, events := evs } := by
  cases h with
  | undecided hall' hgiven hexit =>
    refine .undecided ?_ (by rw [hh, ← hgiven]) (by rw [hs]; exact hexit)
    intro l hl
    rw [hh] at hl
    rcases List.mem_append.mp hl with hl | hl
    · exact hall l hl
    · exact hall' l hl
  | decided pre l post hheard hpre hgiven hexit =>
    refine .decided (ls ++ pre) l post ?_ ?_ ?_ hexit
    · rw [hh, hheard, List.append_assoc]
    · intro p hp
      rcases List.mem_append.mp hp with hp | hp
      · exact hall p hp
      · exact hpre p hp
    · rw [hgiven, List.append_assoc]

/-- Every loop with a forgetful body is decided by the first decisive line that is to come, and if
there is none by what stops the lines. -/
theorem lines_decision (v : Unit → Bytes → Verdict Unit α) (conn : LineSocket) (deadline : ℚ)
    (turns : List Turn) : Decision v conn deadline turns (conn.lines v deadline turns ()) := by
  induction turns generalizing conn with
  | nil =>
    have hh : heard conn deadline [] = completeLines conn.buffer := by
      simp only [heard, LineSocket.lines, drain_listen]
    have hs : silence conn deadline [] = none := by
      simp only [silence, LineSocket.lines, drain_listen]
    rcases drain_decision v conn.buffer with ⟨hall, hd⟩ | ⟨pre, l, post, he, hpre, hl, hg, hd⟩
    · refine .undecided (hh ▸ hall) ?_ ?_
      · simp only [LineSocket.lines, hd, hh]
      · simp only [LineSocket.lines, hd, hs]
    · exact decision_of_buffer (hh.trans (List.append_nil _).symm) he hpre hl hg hd
  | cons turn turns ih =>
    rcases hp : ({ conn with buffer := unterminated conn.buffer } : LineSocket).pull deadline turn
      with ⟨evs, conn', stop⟩
    obtain ⟨hh, hs⟩ := listen_cons turns hp
    rcases drain_decision v conn.buffer with ⟨hall, hd⟩ | ⟨pre, l, post, he, hpre, hl, hg, hd⟩
    · rw [LineSocket.lines, hd]
      cases stop with
      | more =>
        simp only [hp]
        exact (ih conn').prepend hall hh hs _
      | ended | raised e =>
        simp only [Pull.rest, List.append_nil] at hh
        simp only [hp]
        exact .undecided (hh ▸ hall) hh.symm (by rw [hs]; rfl)
    · exact decision_of_buffer hh he hpre hl hg hd

/-- A loop with a forgetful body that is left has consumed the lines it passed over and the decisive
one, and nothing behind it. -/
theorem lines_left {conn : LineSocket} {deadline : ℚ} {turns : List Turn} {a : α}
    (h : (conn.lines v deadline turns ()).exit = .left a) :
    ∃ passed rest line,
      conn.buffer ++ received (conn.lines v deadline turns ()).events = passed ++ rest ∧
      partitionLine rest = some (line, (conn.lines v deadline turns ()).conn.buffer) ∧
      line ≠ [] ∧ unterminated passed = [] ∧ (∀ p ∈ completeLines passed, v () p = .next ()) ∧
      v () line = .leave a := by
  obtain ⟨passed, rest, line, hs, hcut, hne, hgiven, hwhole⟩ :=
    (lines_reads v deadline turns () conn).left_at h
  refine ⟨passed, rest, line, hs, hcut, hne, hwhole, ?_⟩
  cases lines_decision v conn deadline turns with
  | undecided hall hgiven' hexit =>
    rw [h] at hexit
    split at hexit <;> cases hexit
  | decided pre l post hheard hpre hgiven' hexit =>
    obtain ⟨rfl, hl⟩ := List.append_inj' (hgiven.symm.trans hgiven') rfl
    obtain rfl := List.singleton_inj.mp hl
    refine ⟨hpre, ?_⟩
    rcases hexit with ⟨a', hv, hx⟩ | ⟨e, _, hx⟩
    · rw [h] at hx
      cases hx
      exact hv
    · rw [h] at hx
      cases hx

/-- Two ways to cut a list: one of the cuts is at or before the other. -/
theorem mem_of_cut {pre post pre' post' : List α} {x y : α}
    (h : pre ++ x :: post = pre' ++ y :: post') : x = y ∨ x ∈ pre' ∨ y ∈ pre := by
  rcases List.append_eq_append_iff.mp h with ⟨as, rfl, hx⟩ | ⟨bs, rfl, hy⟩
  · cases as with
    | nil => exact .inl (List.cons.inj hx).1
    | cons a as => exact .inr (.inl (by rw [(List.cons.inj hx).1]; simp))
  · cases bs with
    | nil => exact .inl (List.cons.inj hy).1.symm
    | cons b bs => exact .inr (.inr (by rw [(List.cons.inj hy).1]; simp))

/-- A loop leaves with a value exactly when a line that it gets to says so. -/
theorem lines_left_iff (v : Unit → Bytes → Verdict Unit α) (conn : LineSocket) (deadline : ℚ)
    (turns : List Turn) (a : α) : (conn.lines v deadline turns ()).exit = .left a ↔
      ∃ pre line post, heard conn deadline turns = pre ++ line :: post ∧
        (∀ p ∈ pre, v () p = .next ()) ∧ v () line = .leave a := by
  have hdec := lines_decision v conn deadline turns
  constructor
  · intro hexit
    cases hdec with
    | undecided hall hgiven hend =>
      rw [hexit] at hend
      split at hend <;> cases hend
    | decided pre l post hheard hpre hgiven hend =>
      rcases hend with ⟨a, hv, hx⟩ | ⟨e, hv, hx⟩
      · rw [hexit] at hx
        cases hx
        exact ⟨pre, l, post, hheard, hpre, hv⟩
      · rw [hexit] at hx
        cases hx
  · rintro ⟨pre, line, post, hlines, hpre, hleave⟩
    cases hdec with
    | undecided hall hgiven hend =>
      have hnext := hall line (hlines ▸ by simp)
      rw [hleave] at hnext
      cases hnext
    | decided pre' l post' hheard hpre' hgiven hend =>
      -- the line that ends the loop is this one
      have hl : l = line := by
        rcases mem_of_cut (hheard.symm.trans hlines) with h | h | h
        · exact h
        · rcases hend with ⟨a, hv, _⟩ | ⟨e, hv, _⟩ <;> rw [hpre l h] at hv <;> cases hv
        · rw [hpre' line h] at hleave
          cases hleave
      subst hl
      rcases hend with ⟨a, hv, hx⟩ | ⟨e, hv, hx⟩ <;> rw [hleave] at hv <;> cases hv
      exact hx

end Lines

end CozyLife

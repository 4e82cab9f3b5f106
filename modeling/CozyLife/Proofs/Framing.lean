import CozyLife.Proofs.Lines

namespace CozyLife.Framing
open Python Effects Lines

/-- One `for line in conn.lines(deadline)` and everything that decides how it goes: what its body
does, and how the socket behaves meanwhile. -/
structure Loop where
  β : Type
  α : Type
  body : β → Bytes → Verdict β α
  start : β
  deadline : ℚ
  turns : List Turn

/-- One socket, with all the lines it ever yielded and all the bytes it ever received. -/
structure Transcript where
  conn : LineSocket
  yielded : List Bytes
  arrived : Bytes

def Transcript.fresh (sock : Nat) (timeout : Option ℚ) : Transcript := ⟨⟨sock, [], timeout⟩, [], []⟩

def Transcript.loop (t : Transcript) (l : Loop) : Transcript :=
  let r := t.conn.lines l.body l.deadline l.turns l.start
  ⟨r.conn, t.yielded ++ r.given, t.arrived ++ received r.events⟩

/-- Nothing that arrived is lost or made up: it has been yielded or is still in the buffer. -/
def Accounted (t : Transcript) : Prop :=
  completeLines t.arrived = t.yielded ++ completeLines t.conn.buffer ∧
    unterminated t.arrived = unterminated t.conn.buffer

theorem Accounted.loop (h : Accounted t) (l : Loop) : Accounted (t.loop l) := by
  obtain ⟨hl, ht⟩ := h
  have hs := (lines_reads l.body l.deadline l.turns l.start t.conn).stream
  rw [completeLines_append, unterminated_append, ← ht] at hs
  refine ⟨?_, ?_⟩
  · simp only [Transcript.loop, completeLines_append t.arrived, hl, List.append_assoc]
    exact congrArg _ hs.1
  · simp only [Transcript.loop, unterminated_append t.arrived]
    exact hs.2

theorem accounted_run (loops : List Loop) (h : Accounted t) :
    Accounted (loops.foldl Transcript.loop t) := by
  induction loops generalizing t with
  | nil => exact h
  | cons l loops ih => exact ih (h.loop l)

/-- However the stream is cut into chunks and whoever stops reading when: the lines yielded over all
loops and those still buffered are the lines of the stream, and behind them the buffer holds exactly
its unfinished tail. -/
theorem lines_of_stream (sock : Nat) (timeout : Option ℚ) (loops : List Loop) :
    let t := loops.foldl Transcript.loop (.fresh sock timeout)
    t.yielded ++ completeLines t.conn.buffer = completeLines t.arrived ∧
      t.conn.buffer = (Delimited.records 0x0D 0x0A t.conn.buffer).flatMap (· ++ TERMINATOR) ++
        unterminated t.arrived := by
  have h : Accounted (.fresh sock timeout) := ⟨rfl, rfl⟩
  obtain ⟨hl, ht⟩ := accounted_run loops h
  exact ⟨hl.symm, ht ▸ (Delimited.join_split _).symm⟩

end CozyLife.Framing

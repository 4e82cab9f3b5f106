import CozyLife.Lib.Effects
import CozyLife.Python.Json

namespace CozyLife
open Python Effects

/-- A transport could not complete an exchange with the device; the text is what it says. -/
structure TransportError where
  message : Str
  deriving DecidableEq

/-- What can be raised on the way from a request to its reply. The texts of Python's own exceptions are
left out. -/
inductive Exn
  | transport (e : TransportError)
  | os (text : Str)
  | unicode
  | overflow
  | type
  | value
  | recursion
  | assertion
  deriving DecidableEq

def Exn.isTransport : Exn → Bool
  | .transport _ => true
  | _ => false

/-- What happens on the sockets, in the order it happens. `timeout` is the mode of the socket at
that moment, where `none` blocks for ever. -/
inductive Event
  | connecting (host : Str) (port : Int) (timeout : ℚ)
  | opened (sock : Nat)
  | sent (sock : Nat) (timeout : Option ℚ) (raw taken : Bytes)
  | read (sock : Nat) (timeout : Option ℚ) (chunk : Bytes)
  | closed (sock : Nat)
  deriving DecidableEq

/-- A line at INFO level: its format, by name, and the arguments of it. -/
inductive LogLine
  | servedOver (path : Str)
  | switched (before after : Str)
  | localFailing (times : Nat) (interval : ℚ)
  | localAnswering
  | moved (deviceId host : Str)
  deriving DecidableEq

/-- The process around the transports: the last sequence number given out, how many sockets were
ever opened, and what happened so far. -/
structure World where
  lastSn : Int
  sockets : Nat
  trace : List Event
  log : List LogLine

def World.initial : World := ⟨0, 0, [], []⟩

/-- A method of an object whose own fields are `σ`. -/
abbrev Method (σ α : Type) := EStateM Exn (σ × World) α

def World.lens (σ : Type) : Lens (σ × World) World where
  get s := s.2
  set w s := (s.1, w)
  get_set _ _ := rfl
  set_get _ := rfl

/-- Run a program that touches no field of the object. -/
def onWorld (m : EStateM Exn World α) : Method σ α := zoom (World.lens σ) m

def getSelf : Method σ σ := do return (← get).1

def modifySelf (f : σ → σ) : Method σ Unit := modify (fun s => (f s.1, s.2))

def record (evs : List Event) : EStateM Exn World Unit :=
  modify (fun w => { w with trace := w.trace ++ evs })

def info (line : LogLine) : EStateM Exn World Unit :=
  modify (fun w => { w with log := w.log ++ [line] })

/-- `raise TransportError(message)`. -/
def raiseTransport (message : Str) : EStateM Exn σ α := throw (.transport ⟨message⟩)

section Runs

variable {σ α : Type} (s : σ × World)

@[simp] theorem run_getSelf : (getSelf : Method σ σ).run s = .ok s.1 s := rfl

@[simp] theorem run_modifySelf (f : σ → σ) :
    (modifySelf f : Method σ Unit).run s = .ok () (f s.1, s.2) := rfl

@[simp] theorem run_onWorld (m : EStateM Exn World α) : (onWorld m : Method σ α).run s =
    match m.run s.2 with
    | .ok a w => .ok a (s.1, w)
    | .error e w => .error e (s.1, w) := by
  simp only [onWorld, run_zoom]
  cases h : m.run s.2 <;> simp only [World.lens, h]

@[simp] theorem run_record (evs : List Event) (w : World) :
    (record evs).run w = .ok () { w with trace := w.trace ++ evs } := rfl

@[simp] theorem run_info (line : LogLine) (w : World) :
    (info line).run w = .ok () { w with log := w.log ++ [line] } := rfl

@[simp] theorem run_raiseTransport (message : Str) (s : σ) :
    (raiseTransport message : EStateM Exn σ α).run s = .error (.transport ⟨message⟩) s := rfl

theorem keeps_getSelf {I : σ × World → Prop} : Keeps I (getSelf : Method σ σ) := fun _ h => h

/-- What is announced changes nothing but the log. -/
theorem keeps_info {I : σ × World → Prop} (h : ∀ s log, I s → I (s.1, { s.2 with log := log }))
    (line : LogLine) : Keeps I (onWorld (info line) : Method σ Unit) := fun s hs => h s _ hs

end Runs

end CozyLife

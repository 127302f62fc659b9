/-!
# Signals

## Main Definitions

* `Signal.name?` — the name of a signal
* `Signal.number?` — the signal that a text denotes
* `Signal.isHarmless` — whether a program goes on when a signal comes
-/

namespace RankedRetrieval.Signal

/-- The names of the signals from the first one on. -/
def names : List String :=
  ["HUP", "INT", "QUIT", "ILL", "TRAP", "ABRT", "BUS", "FPE", "KILL", "USR1", "SEGV", "USR2",
    "PIPE", "ALRM", "TERM", "STKFLT", "CHLD", "CONT", "STOP", "TSTP", "TTIN", "TTOU", "URG",
    "XCPU", "XFSZ", "VTALRM", "PROF", "WINCH", "IO", "PWR", "SYS"]

/-- The name of a signal. -/
def name? (signal : Nat) : Option String :=
  match signal with
  | 0 => none
  | n + 1 => names[n]?

/-- The signal of a name. -/
def number? (name : String) : Option Nat :=
  (names.findIdx? (· = name)).map (· + 1)

/-- The greatest signal. -/
def greatest : Nat := 64

/-- Whether a program goes on when a signal comes for which it has made no provision. -/
def isHarmless (signal : Nat) : Bool :=
  signal = 0 || [17, 18, 19, 20, 21, 22, 23, 28].contains signal

/-- The wording of a signal. -/
def message (signal : Nat) : String :=
  match name? signal with
  | some name => Nat.repr signal ++ " (SIG" ++ name ++ ")"
  | none => Nat.repr signal

end RankedRetrieval.Signal

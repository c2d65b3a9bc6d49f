/-!
Signals by number and name, and what they do to a process that has no trap for them.
-/

namespace Stepwise.Shell.Signal

/-- The end of a shell, which traps treat as a signal. -/
def exit : Nat := 0

def kill : Nat := 9

def pipe : Nat := 13

def term : Nat := 15

def names : List (Nat × String) := [
  (0, "EXIT"), (1, "HUP"), (2, "INT"), (3, "QUIT"), (4, "ILL"), (5, "TRAP"), (6, "ABRT"),
  (7, "BUS"), (8, "FPE"), (9, "KILL"), (10, "USR1"), (11, "SEGV"), (12, "USR2"), (13, "PIPE"),
  (14, "ALRM"), (15, "TERM"), (16, "STKFLT"), (17, "CHLD"), (18, "CONT"), (19, "STOP"),
  (20, "TSTP"), (21, "TTIN"), (22, "TTOU"), (23, "URG"), (24, "XCPU"), (25, "XFSZ"),
  (26, "VTALRM"), (27, "PROF"), (28, "WINCH"), (29, "IO"), (30, "PWR"), (31, "SYS")]

def descriptions : List (Nat × String) := [
  (1, "Hangup"), (3, "Quit"), (4, "Illegal instruction"), (5, "Trace/breakpoint trap"),
  (6, "Aborted"), (7, "Bus error"), (8, "Floating point exception"), (9, "Killed"),
  (10, "User defined signal 1"), (11, "Segmentation fault"), (12, "User defined signal 2"),
  (14, "Alarm clock"), (15, "Terminated"), (16, "Stack fault"), (24, "CPU time limit exceeded"),
  (25, "File size limit exceeded"), (26, "Virtual timer expired"),
  (27, "Profiling timer expired"), (29, "I/O possible"), (30, "Power failure"),
  (31, "Bad system call")]

def ofText? (text : String) : Option Nat :=
  match text.toNat? with
  | some n => if n ≤ 64 then some n else none
  | none =>
    let upper := text.toUpper
    let bare := if upper.startsWith "SIG" then (upper.drop 3).toString else upper
    (names.find? (·.2 == bare)).map (·.1)

def name (n : Nat) : String := (names.lookup n).getD (toString n)

def isHarmless (n : Nat) : Bool := n = 17 || n = 18 || n = 23 || n = 28

def stops (n : Nat) : Bool := n = 19 || n = 20 || n = 21 || n = 22

def isFixed (n : Nat) : Bool := n = kill || n = 19

end Stepwise.Shell.Signal

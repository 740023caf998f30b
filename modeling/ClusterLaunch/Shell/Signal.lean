import ClusterLaunch.Shell.Octets

/-!
Signals: their numbers and names, and what they do to a process that does not mind
them.
-/

namespace ClusterLaunch.Shell.Signal

def names : List String :=
  ["HUP", "INT", "QUIT", "ILL", "TRAP", "ABRT", "BUS", "FPE", "KILL", "USR1", "SEGV", "USR2",
   "PIPE", "ALRM", "TERM", "STKFLT", "CHLD", "CONT", "STOP", "TSTP", "TTIN", "TTOU", "URG",
   "XCPU", "XFSZ", "VTALRM", "PROF", "WINCH", "IO", "PWR", "SYS"]

/-- What is said of a process that a signal has ended, in the same order. -/
def descriptions : List String :=
  ["Hangup", "Interrupt", "Quit", "Illegal instruction", "Trace/breakpoint trap", "Aborted",
   "Bus error", "Floating point exception", "Killed", "User defined signal 1",
   "Segmentation fault", "User defined signal 2", "Broken pipe", "Alarm clock", "Terminated",
   "Stack fault", "Child exited", "Continued", "Stopped (signal)", "Stopped", "Stopped (tty input)",
   "Stopped (tty output)", "Urgent I/O condition", "CPU time limit exceeded",
   "File size limit exceeded", "Virtual timer expired", "Profiling timer expired",
   "Window changed", "I/O possible", "Power failure", "Bad system call"]

def last : Nat := 64

def name (signal : Nat) : String :=
  if signal == 0 then "EXIT"
  else match names[signal - 1]? with
    | some name => name
    | none =>
        if signal == 34 then "RTMIN"
        else if signal == 64 then "RTMAX"
        else if 34 < signal && signal < 50 then "RTMIN+" ++ Text.decimal (signal - 34)
        else if 50 ≤ signal && signal < 64 then "RTMAX-" ++ Text.decimal (64 - signal)
        else Text.decimal signal

def description (signal : Nat) : String :=
  (descriptions[signal - 1]?).getD
    (if 34 ≤ signal then "Real-time signal " ++ Text.decimal (signal - 34)
     else "Unknown signal " ++ Text.decimal signal)

/-- The signal of a name or a number; the one that stands for the end of a script has number
zero. -/
def ofText? (text : List Char) : Option Nat :=
  match Text.readNumeral? 10 text with
  | some n => if n ≤ last then some n else none
  | none =>
      let upper := String.ofList (text.map Char.toUpper)
      let bare := if upper.startsWith "SIG" then (upper.drop 3).toString else upper
      (List.range (last + 1)).find? fun signal => name signal == bare

def kill : Nat := 9
def pipe : Nat := 13
def terminate : Nat := 15
def child : Nat := 17

/-- Signals that a process does not notice unless it waits for them: a child that ended, going
on, urgent data, and another size of the window. -/
def isSilent (signal : Nat) : Bool :=
  [0, 17, 18, 23, 28].contains signal

/-- Signals that stop a process until it is told to go on. -/
def stops (signal : Nat) : Bool :=
  [19, 20, 21, 22].contains signal

def isFinal (signal : Nat) : Bool :=
  signal == 9 || signal == 19

def isReported (signal : Nat) : Bool :=
  signal != 2 && signal != 13

end ClusterLaunch.Shell.Signal

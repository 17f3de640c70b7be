/-!
# `Host.Signal` — signals and how processes end
-/

namespace DataplaneVerdict.Host

/-- A signal, by its number. -/
structure Signal where
  number : Nat
deriving DecidableEq, Inhabited

namespace Signal

/-- Names and descriptions, from the first number on. -/
def table : List (String × String) :=
  [("HUP", "Hangup"), ("INT", "Interrupt"), ("QUIT", "Quit"), ("ILL", "Illegal instruction"),
   ("TRAP", "Trace/breakpoint trap"), ("ABRT", "Aborted"), ("BUS", "Bus error"), ("FPE", "Floating point exception"),
   ("KILL", "Killed"), ("USR1", "User defined signal 1"), ("SEGV", "Segmentation fault"),
   ("USR2", "User defined signal 2"), ("PIPE", "Broken pipe"), ("ALRM", "Alarm clock"), ("TERM", "Terminated"),
   ("STKFLT", "Stack fault"), ("CHLD", "Child exited"), ("CONT", "Continued"), ("STOP", "Stopped (signal)"),
   ("TSTP", "Stopped"), ("TTIN", "Stopped (tty input)"), ("TTOU", "Stopped (tty output)"),
   ("URG", "Urgent I/O condition"), ("XCPU", "CPU time limit exceeded"), ("XFSZ", "File size limit exceeded"),
   ("VTALRM", "Virtual timer expired"), ("PROF", "Profiling timer expired"), ("WINCH", "Window changed"),
   ("POLL", "I/O possible"), ("PWR", "Power failure"), ("SYS", "Bad system call")]

def greatest : Nat := 64

def name (s : Signal) : String :=
  match table[s.number - 1]? with
  | some (n, _) => n
  | none =>
    if s.number < 34 then toString s.number
    else if s.number = 34 then "RTMIN"
    else if s.number < 50 then "RTMIN+" ++ toString (s.number - 34)
    else if s.number = 64 then "RTMAX"
    else "RTMAX-" ++ toString (64 - s.number)

def description (s : Signal) : String :=
  match table[s.number - 1]? with
  | some (_, d) => d
  | none => "Real-time signal " ++ toString (s.number - 34)

def ofName? (name : String) : Option Signal :=
  ((List.range greatest).find? fun n => (Signal.mk (n + 1)).name = name).map fun n => ⟨n + 1⟩

def hup : Signal := ⟨1⟩
def int : Signal := ⟨2⟩
def quit : Signal := ⟨3⟩
def kill : Signal := ⟨9⟩
def pipe : Signal := ⟨13⟩
def alarm : Signal := ⟨14⟩
def term : Signal := ⟨15⟩
def child : Signal := ⟨17⟩
def cont : Signal := ⟨18⟩

/-- Whether nothing happens to a process that has not arranged for it. -/
def isHarmless (s : Signal) : Bool := [17, 18, 23, 28].contains s.number

def stops (s : Signal) : Bool := [19, 20, 21, 22].contains s.number

/-- Whether a process cannot arrange for it. -/
def isFinal (s : Signal) : Bool := s.number = 9 || s.number = 19

end Signal

/-- How a process ends. -/
inductive Ending where
  | exited (code : Nat)
  | killed (s : Signal)
deriving DecidableEq, Inhabited

namespace Ending

/-- How a shell sees an end. -/
def status : Ending → Nat
  | exited code => code
  | killed s => 128 + s.number

end Ending

/-- What a process has arranged for a signal. -/
inductive Disposition where
  | standard
  | ignored
  | caught
deriving DecidableEq, Inhabited

end DataplaneVerdict.Host

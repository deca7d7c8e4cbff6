import FloatingAddress.Number.Numeral

/-!
# Errors of the operating system

The operating system numbers its errors. Some numbers have a name of their own, two or
three of them the same one; all others share the general name.
-/

namespace FloatingAddress

/-- An error of the operating system. -/
structure SystemError where
  number : Int
  words : Text
deriving DecidableEq

namespace SystemError

/-- The names of the errors that have one of their own, with their numbers. -/
def names : List (Text × List Int) :=
  [("BlockingIOError", [11, 114, 115]), ("BrokenPipeError", [32, 108]),
   ("ChildProcessError", [10]), ("ConnectionAbortedError", [103]),
   ("ConnectionRefusedError", [111]), ("ConnectionResetError", [104]),
   ("FileExistsError", [17]), ("FileNotFoundError", [2]), ("InterruptedError", [4]),
   ("IsADirectoryError", [21]), ("NotADirectoryError", [20]), ("PermissionError", [1, 13]),
   ("ProcessLookupError", [3]), ("TimeoutError", [110])]

/-- The name of an error. -/
def name (e : SystemError) : Text :=
  ((names.find? fun entry => entry.2.contains e.number).map (·.1)).getD "OSError"

/-- The wording of an error, its number in front. -/
def message (e : SystemError) : Text :=
  "[Errno " ++ Numeral.ofInt e.number ++ "] " ++ e.words

end SystemError
end FloatingAddress

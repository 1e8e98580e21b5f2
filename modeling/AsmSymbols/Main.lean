import AsmSymbols.Tool

/-!
# The program

The tool, on the machine.  The steps that it takes there are those of a `Host`; everything that is
decided is decided in `AsmSymbols.Tool`.
-/

set_option autoImplicit false

namespace AsmSymbols

def Text.capitalize : Text → Text
  | [] => []
  | c :: rest => c.toUpper :: rest

/-- The failure with a number of the operating system, which may come negated. -/
def FileError.ofCode (code : UInt32) (description : Text) : FileError :=
  let number := if code < 2147483648 then code else 0 - code
  match number.toNat with
  | 2 => .notFound
  | 20 => .notDirectory
  | 21 => .isDirectory
  | 36 => .nameTooLong
  | other => .system description.capitalize other

def FileError.ofIOError : IO.Error → FileError
  | .alreadyExists _ code details | .otherError code details | .resourceBusy code details
  | .resourceVanished code details | .unsupportedOperation code details
  | .hardwareFault code details | .unsatisfiedConstraints code details
  | .illegalOperation code details | .protocolError code details | .timeExpired code details
  | .interrupted _ code details | .noFileOrDirectory _ code details
  | .invalidArgument _ code details | .permissionDenied _ code details
  | .resourceExhausted _ code details | .inappropriateType _ code details
  | .noSuchThing _ code details => .ofCode code details.toList
  | .unexpectedEof => .system "unexpected end of file" 0
  | .userError description => .system description.toList 0

/-- The machine that the program runs on.  Log lines show no time here. -/
def Host.machine : Host IO where
  read name := do
    try
      return .ok (← IO.FS.readBinFile (String.ofList name)).data.toList
    catch problem => return .error (.ofIOError problem)
  write name content := do
    try
      IO.FS.writeBinFile (String.ofList name) ⟨content.toArray⟩
      return .ok ()
    catch problem => return .error (.ofIOError problem)
  print text := IO.print (String.ofList text)
  complain text := IO.eprint (String.ofList text)
  time := return none

end AsmSymbols

open AsmSymbols in
def main (arguments : List String) : IO UInt32 := do
  let wish ← IO.getEnv "RUST_LOG"
  let exit ← Tool.invoke .machine (arguments.map String.toList) (wish.map String.toList)
  return exit.toUInt32

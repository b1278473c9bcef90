/-
**Command-line arguments.**

The flags of the program come before the name of a command, and behind that at most the path of a
project.  A long flag may be cut short as long as only one flag begins so, short flags may be joined,
and behind two hyphens every argument is an operand.

Main definitions:

* `ComponentIndex.Command`, `ComponentIndex.Request` — what is asked for;
* `ComponentIndex.Arguments.read` — what one argument is;
* `ComponentIndex.Arguments.parse` — what a list of arguments asks for.
-/

import ComponentIndex.Text.Basic

set_option relaxedAutoImplicit false
set_option autoImplicit false

namespace ComponentIndex

/-- A command. -/
inductive Command where
  /-- Prints the occurrences of elements. -/
  | scan
  /-- Prints the literals that stubs keep. -/
  | stubs
  /-- Prints the types of loop variables. -/
  | loops
deriving DecidableEq

/-- The name of a command. -/
def Command.label : Command → Text
  | scan => "scan"
  | stubs => "stubs"
  | loops => "vfor"

/-- The command with a given name. -/
def Command.ofLabel? (name : Text) : Option Command :=
  [scan, stubs, loops].find? fun c => c.label = name

/-- What is asked for. -/
structure Request where
  /-- The command. -/
  command : Command
  /-- What the program does is logged. -/
  verbose : Bool
  /-- The path of the project. -/
  root : Text
deriving DecidableEq

namespace Arguments

/-- A flag. -/
inductive Flag where
  /-- Shows how the program is used. -/
  | help
  /-- Logs what the program does. -/
  | verbose
deriving DecidableEq

/-- The letter of a flag. -/
def Flag.letter : Flag → CodePoint
  | help => 'h'
  | verbose => 'v'

/-- The long form of a flag. -/
def Flag.long : Flag → Text
  | help => "--help"
  | verbose => "--verbose"

/-- What an argument is. -/
inductive Reading where
  /-- An operand. -/
  | operand
  /-- Flags that are known, and perhaps one that is not. -/
  | flags (fs : List Flag) (someUnknown : Bool)
  /-- Nothing: it is the beginning of several flags. -/
  | ambiguous
  /-- Nothing: it gives a value to a flag that has none. -/
  | refused
deriving DecidableEq

/-! ### Single arguments -/

/-- The hyphen. -/
def hyphen : CodePoint := '-'

/-- A number below zero, which is no flag. -/
def isNegativeNumber (t : Text) : Bool :=
  let digits := t.tail
  let fraction := digits.dropWhile CodePoint.isDigit
  digits != [] && (fraction = [] ||
    (fraction.head? = some ('.' : CodePoint) && fraction.tail != [] &&
      fraction.tail.all CodePoint.isDigit))

/-- What an argument with a hyphen before it is if no flag is meant. -/
def withoutFlag (t : Text) : Reading :=
  if isNegativeNumber t || t.contains (' ' : CodePoint) then .operand else .flags [] true

/-- What an argument with two hyphens before it is. -/
def readLong (known : List Flag) (t : Text) : Reading :=
  let isEqualSign (c : CodePoint) : Bool := c = ('=' : CodePoint)
  let name := t.takeWhile fun c => !isEqualSign c
  match known.filter fun f => name.isPrefixOf f.long with
  | [] => withoutFlag t
  | [f] => if t.any isEqualSign then .refused else .flags [f] false
  | _ => .ambiguous

/-- The flags that letters name behind some known ones. The first letter that names none ends them,
and a hyphen or an equals sign is no letter. -/
def readLetters (known fs : List Flag) : Text → Reading
  | [] => .flags fs false
  | c :: letters =>
    if c = hyphen || c = ('=' : CodePoint) then .refused
    else
      match known.find? fun f => f.letter = c with
      | some f => readLetters known (fs ++ [f]) letters
      | none => .flags fs true

/-- What an argument with one hyphen before a letter is. -/
def readShort (known : List Flag) (letter : CodePoint) (rest : Text) : Reading :=
  match known.find? fun f => f.letter = letter with
  | some f => readLetters known [f] rest
  | none => withoutFlag (hyphen :: letter :: rest)

/-- What an argument is. -/
def read (known : List Flag) (t : Text) : Reading :=
  match t with
  | [] => .operand
  | [_] => .operand
  | c :: d :: rest =>
    if c ≠ hyphen then .operand
    else if d = hyphen then readLong known t
    else readShort known d rest

/-! ### Lists of arguments -/

/-- What a list of arguments asks for. -/
inductive Parsed where
  /-- That a command is run. -/
  | request (r : Request)
  /-- That the use of the program is shown. -/
  | help
  /-- Nothing that the program knows. -/
  | refused
deriving DecidableEq

/-- Two hyphens, behind which there are operands alone. -/
def separator : Text := "--"

/-- The operands among the arguments of a command, and whether some flag among them is unknown;
nothing if a flag asks for help or is refused. -/
def operandsOf : List Text → Except Parsed (List Text × Bool)
  | [] => .ok ([], false)
  | t :: ts =>
    if t = separator then .ok (ts, false)
    else
      match read [.help] t with
      | .operand => (operandsOf ts).map fun (operands, unknown) => (t :: operands, unknown)
      | .flags [] someUnknown =>
        (operandsOf ts).map fun (operands, unknown) => (operands, someUnknown || unknown)
      | .flags _ _ => .error .help
      | .ambiguous | .refused => .error .refused

/-- The request of a command with the given arguments: at most one operand, the path of the
project. -/
def parseCommand (verbose unknownBefore : Bool) (c : Command) (arguments : List Text) : Parsed :=
  match operandsOf arguments with
  | .error p => p
  | .ok (operands, unknown) =>
    if unknown || unknownBefore then .refused
    else
      match operands with
      | [] => .request ⟨c, verbose, "."⟩
      | [root] => .request ⟨c, verbose, root⟩
      | _ => .refused

/-- The request of some arguments that come behind flags. -/
def parseFrom (verbose unknown : Bool) : List Text → Parsed
  | [] => .refused
  | t :: ts =>
    if t = separator then .refused
    else
      match read [.help, .verbose] t with
      | .operand =>
        match Command.ofLabel? t with
        | some c => parseCommand verbose unknown c ts
        | none => .refused
      | .flags fs someUnknown =>
        if fs.contains .help then .help
        else parseFrom (verbose || fs.contains .verbose) (unknown || someUnknown) ts
      | .ambiguous | .refused => .refused

/-- Some argument before two hyphens is the beginning of several flags. -/
def someAmbiguous (arguments : List Text) : Bool :=
  (arguments.takeWhile (· ≠ separator)).any fun t => read [.help, .verbose] t = .ambiguous

/-- What a list of arguments asks for. -/
def parse (arguments : List Text) : Parsed :=
  if someAmbiguous arguments then .refused else parseFrom false false arguments

end Arguments

end ComponentIndex

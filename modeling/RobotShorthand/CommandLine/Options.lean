/-
**Options of the command line.**

Options begin with two dashes and may be cut short as long as one option only is meant; a value follows
as the next argument or behind an equals sign.  First every argument is classified: it is an option, or
plain text, which includes negative numbers and anything with a space in it; behind a double dash
everything is plain.  Then the options are taken in turn with the values that follow them, and plain
arguments that are no values are left over, which is an error in the end.  A double dash is never a value:
alone behind an equals sign it stands for a value that is given as nothing.

Main definitions:

* `Switch`, `Arity` — the options, and how many values they take;
* `classify` — what an argument is;
* `Setting` — what an option is given as its value: something written, or nothing;
* `Options` — the values of all options;
* `Refusal` — why arguments are refused, with its message and exit code;
* `parseOptions` — **the options of a list of arguments.**
-/

import RobotShorthand.Text.Numeral
import RobotShorthand.Text.Quoted

set_option relaxedAutoImplicit false
set_option autoImplicit false

namespace RobotShorthand

namespace CommandLine

/-! ### The options -/

/-- The options. -/
inductive Switch
  | help
  | src
  | ultra
  | behavior
  | strict
  | expand
  | seed
  | name
  | quiet
  | hash
  | stats
  | listBehaviors
  | repl
  | visualize
  | viz
  deriving DecidableEq

/-- How many values an option takes. -/
inductive Arity
  | none
  | one
  | atMostOne
  deriving DecidableEq

namespace Switch

/-- The long name of an option. -/
def long : Switch → String
  | help => "--help"
  | src => "--src"
  | ultra => "--ultra"
  | behavior => "--behavior"
  | strict => "--strict"
  | expand => "--expand"
  | seed => "--seed"
  | name => "--name"
  | quiet => "--quiet"
  | hash => "--hash"
  | stats => "--stats"
  | listBehaviors => "--list-behaviors"
  | repl => "--repl"
  | visualize => "--visualize"
  | viz => "--viz"

/-- The one short name there is. -/
def shortHelp : String := "-h"

/-- The options in the order in which they are listed. -/
def all : List Switch :=
  [help, src, ultra, behavior, strict, expand, seed, name, quiet, hash, stats, listBehaviors, repl,
    visualize, viz]

/-- The number of values of an option. -/
def arity : Switch → Arity
  | src => .one
  | ultra => .one
  | behavior => .one
  | seed => .one
  | name => .one
  | viz => .one
  | visualize => .atMostOne
  | _ => .none

/-- The name of an option in messages. -/
def title : Switch → String
  | help => "-h/--help"
  | s => s.long

/-- The options of which only one may be given. -/
def isSource : Switch → Bool
  | src => true
  | ultra => true
  | behavior => true
  | _ => false

/-- The option of a full name. -/
def ofName? (text : String) : Option Switch :=
  if text = shortHelp then some help else all.find? (·.long = text)

end Switch

/-! ### Refusals -/

/-- Why arguments are refused. -/
inductive Refusal
  /-- help is asked for instead -/
  | helpAsked
  /-- several options are meant -/
  | ambiguous (argument : String) (candidates : List Switch)
  /-- an option without its value -/
  | valueMissing (option : Switch)
  /-- a value for an option that takes none -/
  | valueIgnored (option : Switch) (value : String)
  /-- a value that is no integer -/
  | notAnInteger (option : Switch) (value : String)
  /-- two options that exclude each other -/
  | excluded (option earlier : Switch)
  /-- arguments left over -/
  | unrecognized (arguments : List String)

namespace Refusal

/-- The name of the program. -/
def programName : String := "coconut-telegraph"

/-- What is wrong with an option. -/
def about (option : Switch) (what : String) : String := "argument " ++ option.title ++ ": " ++ what

/-- What is wrong. -/
def reason : Refusal → String
  | helpAsked => ""
  | ambiguous argument candidates =>
      "ambiguous option: " ++ argument ++ " could match "
        ++ ", ".intercalate (candidates.map Switch.long)
  | valueMissing option => about option "expected one argument"
  | valueIgnored option value =>
      about option ("ignored explicit argument " ++ Text.quoted value.toList)
  | notAnInteger option value => about option ("invalid int value: " ++ Text.quoted value.toList)
  | excluded option earlier => about option ("not allowed with argument " ++ earlier.title)
  | unrecognized arguments => "unrecognized arguments: " ++ " ".intercalate arguments

/-- The line that is written about it; none when help is asked for. -/
def message : Refusal → String
  | helpAsked => ""
  | r => programName ++ ": error: " ++ r.reason

/-- The exit code. -/
def exitCode : Refusal → Nat
  | helpAsked => 0
  | _ => 2

end Refusal

/-! ### Classifying arguments -/

/-- What an argument is. -/
inductive Argument
  /-- an option, with the value behind its equals sign if it has one -/
  | option (option : Switch) (value? : Option String)
  /-- the short name of help with further characters behind it, or behind its equals sign -/
  | clustered (rest : List Char)
  /-- an option that does not exist -/
  | unknown
  /-- plain text -/
  | plain

/-- A text cut at its first equals sign, if it has one. -/
def cutAtEquals (cs : List Char) : List Char × Option (List Char) :=
  match cs.dropWhile (· ≠ '=') with
  | [] => (cs, none)
  | _ :: value => (cs.takeWhile (· ≠ '='), some value)

/-- The characters of a negative number behind its sign: digits, or a point with digits behind it and
perhaps before it.  A line feed may end it. -/
def isNegativeNumber : List Char → Bool
  | '-' :: cs =>
      let isDigit := fun c => (Text.decimalDigit? c).isSome
      let cs := if cs.getLast? = some '\n' then cs.dropLast else cs
      match cs.dropWhile isDigit with
      | [] => !cs.isEmpty
      | '.' :: fraction => !fraction.isEmpty && fraction.all isDigit
      | _ => false
  | _ => false

/-- An argument that is the name of no option in full, and whose part before an equals sign is none
either. -/
def classifyOther (argument : String) (cs : List Char) : Except Refusal Argument :=
  let fallback : Argument :=
    if isNegativeNumber cs ∨ ' ' ∈ cs then .plain else .unknown
  match cs with
  | '-' :: '-' :: _ =>
      let (start, value?) := cutAtEquals cs
      match Switch.all.filter fun s => start.isPrefixOf s.long.toList with
      | [] => .ok fallback
      | [s] => .ok (.option s (value?.map String.ofList))
      | candidates => .error (.ambiguous argument candidates)
  | '-' :: 'h' :: rest => .ok (.clustered rest)
  | _ => .ok fallback

/-- **What an argument is,** the double dash apart. -/
def classify (argument : String) : Except Refusal Argument :=
  let cs := argument.toList
  match cs with
  | '-' :: _ :: _ =>
      match Switch.ofName? argument with
      | some s => .ok (.option s none)
      | none =>
          match cutAtEquals cs with
          | (start, some value) =>
              match Switch.ofName? (String.ofList start) with
              | some s =>
                  if String.ofList start = Switch.shortHelp ∧ value ≠ [] then .ok (.clustered value)
                  else .ok (.option s (some (String.ofList value)))
              | none => classifyOther argument cs
          | (_, none) => classifyOther argument cs
  | _ => .ok .plain

/-- The arguments with what they are.  A double dash and everything behind it is plain; the dash itself
is never a value. -/
structure Classified where
  text : String
  argument : Argument
  isDash : Bool

/-- Classifies arguments in turn. -/
def classifyAll : List String → Except Refusal (List Classified)
  | [] => .ok []
  | a :: rest =>
      if a = "--" then
        .ok (⟨a, .plain, true⟩ :: rest.map fun b => ⟨b, .plain, false⟩)
      else do
        let argument ← classify a
        let rest ← classifyAll rest
        return ⟨a, argument, false⟩ :: rest

/-! ### Values -/

/-- What an option is given as its value. -/
inductive Setting (α : Type)
  /-- what is written -/
  | written (value : α)
  /-- nothing, which is not the same as an empty text -/
  | nothing
  deriving DecidableEq

namespace Setting

/-- What is written, or else another. -/
def getD {α : Type} : Setting α → α → α
  | written value, _ => value
  | nothing, other => other

/-- What a text behind an equals sign gives; a double dash alone is no value. -/
def ofText (text : String) : Setting String := if text = "--" then nothing else written text

/-- How a setting is shown: as it is written, and nothing as a pair of brackets. -/
def shown (s : Setting String) : String := s.getD "[]"

end Setting

/-! ### Taking options -/

/-- The values of the options. -/
structure Options where
  src : Option (Setting String)
  ultra : Option (Setting String)
  behavior : Option (Setting String)
  strict : Bool
  expand : Bool
  seed : Option (Setting Int)
  name : Setting String
  quiet : Bool
  hash : Bool
  stats : Bool
  listBehaviors : Bool
  repl : Bool
  visualize : Option String
  viz : Option (Setting String)
  deriving DecidableEq

namespace Options

/-- The name of a robot that is given none. -/
def defaultName : String := "Coconut"

/-- The code that is run when none is given. -/
def defaultCode : String := "[4>50@90]"

/-- The options when none is given. -/
def initial : Options :=
  { src := none, ultra := none, behavior := none, strict := false, expand := false, seed := none,
    name := .written defaultName, quiet := false, hash := false, stats := false, listBehaviors := false,
    repl := false, visualize := none, viz := none }

/-- The source options that have been given. -/
def sources (o : Options) : List Switch :=
  [(Switch.src, o.src), (Switch.ultra, o.ultra), (Switch.behavior, o.behavior)].filterMap
    fun (s, value?) => value?.map fun _ => s

/-- The options with one more given, with its value; nothing for one that takes none.  Where to plot may
be left open, which is the same as an empty path. -/
def give (o : Options) (s : Switch) (value : Setting String) : Except Refusal Options :=
  match s with
  | .help => .error .helpAsked
  | .src => .ok { o with src := some value }
  | .ultra => .ok { o with ultra := some value }
  | .behavior => .ok { o with behavior := some value }
  | .strict => .ok { o with strict := true }
  | .expand => .ok { o with expand := true }
  | .seed =>
      match value with
      | .nothing => .ok { o with seed := some .nothing }
      | .written text =>
          match Text.integer? text.toList with
          | some n => .ok { o with seed := some (.written n) }
          | none => .error (.notAnInteger s text)
  | .name => .ok { o with name := value }
  | .quiet => .ok { o with quiet := true }
  | .hash => .ok { o with hash := true }
  | .stats => .ok { o with stats := true }
  | .listBehaviors => .ok { o with listBehaviors := true }
  | .repl => .ok { o with repl := true }
  | .visualize => .ok { o with visualize := some (value.getD "") }
  | .viz => .ok { o with viz := some value }

/-- The options with one more given, unless it excludes one that was given earlier. -/
def take (o : Options) (s : Switch) (value : Setting String) : Except Refusal Options :=
  if s.isSource then
    match o.sources.find? (· ≠ s) with
    | some earlier => .error (.excluded s earlier)
    | none => o.give s value
  else o.give s value

/-- The options with the default code if no source is given. -/
def withDefaultCode (o : Options) : Options :=
  if o.sources.isEmpty then { o with src := some (.written defaultCode) } else o

end Options

/-- The characters behind the short name of help: more of the same ask for help again, and the first other
one makes it and all behind it a value, which help does not take. -/
def clusteredHelp : List Char → Refusal
  | [] => .helpAsked
  | 'h' :: rest => clusteredHelp rest
  | cs => .valueIgnored .help (String.ofList cs)

/-- The value at the front of the arguments behind an option, and the arguments behind that; none when
an option or a double dash stands there, or nothing. -/
def nextValue? : List Classified → Option (String × List Classified)
  | ⟨value, .plain, false⟩ :: rest => some (value, rest)
  | _ => none

theorem length_of_nextValue? {cs rest : List Classified} {value : String}
    (h : nextValue? cs = some (value, rest)) : rest.length < cs.length := by
  unfold nextValue? at h
  split at h
  · obtain ⟨_, rfl⟩ := Prod.mk.inj (Option.some.inj h); simp
  · exact absurd h (by simp)

/-- Takes the options in turn; `leftOver` holds the arguments that were no options and no values. -/
def takeAll (o : Options) (leftOver : List String) : List Classified →
    Except Refusal (Options × List String)
  | [] => .ok (o, leftOver)
  | c :: rest =>
      match c.argument with
      | .plain => takeAll o (leftOver ++ [c.text]) rest
      | .unknown => takeAll o (leftOver ++ [c.text]) rest
      | .clustered cs => .error (clusteredHelp cs)
      | .option s (some value) =>
          if s.arity = .none then .error (.valueIgnored s value)
          else
            match o.take s (.ofText value) with
            | .ok o => takeAll o leftOver rest
            | .error e => .error e
      | .option s none =>
          match s.arity, _h : nextValue? rest with
          | .one, none => .error (.valueMissing s)
          | .one, some (value, behind) =>
              match o.take s (.written value) with
              | .ok o => takeAll o leftOver behind
              | .error e => .error e
          | .atMostOne, some (value, behind) =>
              match o.take s (.written value) with
              | .ok o => takeAll o leftOver behind
              | .error e => .error e
          | _, _ =>
              match o.take s .nothing with
              | .ok o => takeAll o leftOver rest
              | .error e => .error e
termination_by cs => cs.length
decreasing_by
  all_goals simp only [List.length_cons]
  all_goals first
    | omega
    | (have bound := length_of_nextValue? _h; omega)

/-- **The options of a list of arguments.** -/
def parseOptions (arguments : List String) : Except Refusal Options := do
  let classified ← classifyAll arguments
  let (options, leftOver) ← takeAll .initial [] classified
  if leftOver.isEmpty then return options.withDefaultCode
  else throw (.unrecognized leftOver)

end CommandLine

end RobotShorthand

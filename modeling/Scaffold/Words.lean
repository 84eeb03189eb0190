import Scaffold.Text.Case
import Scaffold.Text.Cut

namespace Scaffold.Words

open Scaffold.Text

/-!
# Words of a name

A name is cut into its words at separators, at capitals and where digits,
cased letters and caseless letters meet. A capitals-only run between
separators is one word, as in `MY_APP`.
-/

/-- The kinds of character that never share a word. -/
inductive LetterKind
  | digit
  | cased
  | caseless
  deriving DecidableEq, Repr

/-- The kind of a character; titlecase digraphs count as caseless. -/
def letterKind (c : Char) : LetterKind :=
  if isDigit c then .digit else if isUpper c || isLower c then .cased else .caseless

/-- The runs of alphanumeric characters between separators. -/
def tokens (s : List Char) : List (List Char) :=
  runs (fun c => !isAlphanumeric c) s

/-- Two neighbours stay in one word when they are of one kind and the second does not open a
word of its own by being a capital. -/
def joined (breakOnUpper : Bool) (c d : Char) : Bool :=
  !(breakOnUpper && isUpper d) && letterKind d == letterKind c

/-- The words of one token. -/
def ofToken (breakOnUpper : Bool) (token : List Char) : List (List Char) :=
  token.splitBy (joined breakOnUpper)

/-- The words of a text. A token without a lowercase letter keeps its capitals together when it
is not the only token. -/
def splitChars (s : List Char) : List (List Char) :=
  let ts := tokens s
  ts.flatMap fun token => ofToken (!(1 < ts.length && !token.any isLower)) token

/-- The words of a name. -/
def split (s : String) : List (List Char) :=
  splitChars s.toList

def hasWord (s : String) : Bool :=
  !(split s).isEmpty

def lowerFirst : List Char → List Char
  | [] => []
  | c :: cs => lowerChar c ++ cs

def upperFirst : List Char → List Char
  | [] => []
  | c :: cs => upperChar c ++ cs

/-- The ways to spell a list of words as one name. -/
inductive Spelling
  | kebab
  | snake
  | constant
  | pascal
  | camel
  | title
  deriving DecidableEq, Repr

def Spelling.join : Spelling → List (List Char) → List Char
  | .kebab, ws => joinWith ['-'] (ws.map lower)
  | .snake, ws => joinWith ['_'] (ws.map lower)
  | .constant, ws => joinWith ['_'] (ws.map upper)
  | .pascal, ws => ws.flatMap capitalize
  | .camel, ws => lowerFirst (ws.flatMap capitalize)
  | .title, ws => joinWith [' '] (ws.map capitalize)

/-- A name in a spelling, whatever its own spelling is. -/
def Spelling.respell (spelling : Spelling) (s : String) : String :=
  String.ofList (spelling.join (split s))

/-- `My Task App` is `my-task-app`. -/
def kebab : String → String := Spelling.kebab.respell

/-- `My Task App` is `my_task_app`. -/
def snake : String → String := Spelling.snake.respell

/-- `My Task App` is `MY_TASK_APP`. -/
def constant : String → String := Spelling.constant.respell

/-- `my-task-app` is `MyTaskApp`. -/
def pascal : String → String := Spelling.pascal.respell

/-- `my-task-app` is `myTaskApp`. -/
def camel : String → String := Spelling.camel.respell

/-- `my-task-app` is `My Task App`. -/
def title : String → String := Spelling.title.respell

/-- The ending that makes a word plural, and how many of its last characters it replaces. -/
def pluralEnding (s : List Char) : Nat × List Char :=
  let lowered := lower s
  let endsIn (e : String) : Bool := e.toList.isSuffixOf lowered
  if endsIn "y" && !(["ay", "ey", "oy", "uy"].any endsIn) then (1, ['i', 'e', 's'])
  else if ["s", "sh", "ch", "x", "z"].any endsIn then (0, ['e', 's'])
  else (0, ['s'])

/-- The naive English plural; the ending is in capitals when the word is. -/
def plural (s : String) : String :=
  match s.toList with
  | [] => s
  | cs =>
    let (dropped, ending) := pluralEnding cs
    let ending := if isAllUpper cs then upper ending else ending
    String.ofList (cs.take (cs.length - dropped) ++ ending)

end Scaffold.Words

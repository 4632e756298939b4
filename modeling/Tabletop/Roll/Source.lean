import Tabletop.Roll.Face

/-!
# Sources of randomness

A source is asked for a whole number from one to another; for a die these
are one and its number of sides. It replies with some value or fails;
either way it goes on to a new state. Nothing else is known of a source,
so all that is said of rolling holds whatever the source does.

Rolling runs on a **tape**: a source together with every request made to
it so far. A request is on the tape even if its reply was no face.

The error of a die that could not be rolled names the number of sides and
what the source said or replied. Where one of these numbers has too many
digits to be written, that is the error instead.
-/

namespace Tabletop

/-- **The reply to a request.** -/
inductive Reply
  /-- The source answers with a value, which need not be a face. -/
  | value (v : Value)
  /-- The source fails and says why. -/
  | failure (text : String)

/-- **A request** for a whole number. -/
structure Request where
  /-- The least number that is asked for. -/
  least : Int
  /-- The greatest number that is asked for. -/
  greatest : Int
deriving DecidableEq

/-- The request for a face of a die with so many sides. -/
def Request.face (sides : Int) : Request :=
  ⟨1, sides⟩

/-- **A source of randomness** with states in `σ`. -/
class Source (σ : Type) where
  /-- Asks for a number. -/
  draw : Request → σ → Reply × σ

/-- **A source and the requests made to it**, the latest last. -/
structure Tape (σ : Type) where
  /-- The state of the source. -/
  source : σ
  /-- What it was asked for. -/
  asked : Array Request := #[]

/-- **Why dice could not be rolled.** -/
inductive RollError
  /-- This names no mode. -/
  | unknownMode (named : Value)
  /-- The source failed when asked for a face of such a die. -/
  | sourceFailed (sides : Int) (text : String)
  /-- The source replied with what is no face of such a die. -/
  | impossibleFace (sides : Int) (value : Value)
  /-- The message of the error holds a number with too many digits. -/
  | unwritable

namespace RollError

/-- The message of an error, if all numbers in it can be written. -/
def message? : RollError → Option String
  | unknownMode named => named.written?.map fun value => "Unknown roll type: " ++ value
  | sourceFailed sides text =>
    (Text.whole? sides).map fun number =>
      "Randomness source failed rolling d" ++ number ++ ": " ++ text
  | impossibleFace sides v =>
    v.written?.bind fun value => (Text.whole? sides).map fun number =>
      "Randomness source returned " ++ value ++ " for a d" ++ number
  | unwritable => some Text.tooManyDigits

/-- **The error that is raised** for an error: that of its message, if this cannot be
written. -/
def raised (e : RollError) : RollError :=
  if e.message?.isSome then e else unwritable

/-- **The message of an error.** -/
def message (e : RollError) : String :=
  e.message?.getD Text.tooManyDigits

/-- Whether an error is put down to the source, and not to a value. -/
def isOfSource : RollError → Bool
  | sourceFailed .. | impossibleFace .. => true
  | unknownMode _ | unwritable => false

variable {e : RollError}

theorem raised_eq_self {text : String} (h : e.message? = some text) : e.raised = e := by
  rw [raised, h, Option.isSome_some, if_pos rfl]

theorem raised_eq_unwritable (h : e.message? = none) : e.raised = unwritable := by
  rw [raised, h, Option.isSome_none, if_neg Bool.false_ne_true]

theorem isOfSource_raised_unknownMode (named : Value) :
    (unknownMode named).raised.isOfSource = false := by
  rw [raised]
  split <;> rfl

theorem message_eq {text : String} (h : e.message? = some text) : e.message = text := by
  rw [message, h, Option.getD_some]

end RollError

/-- **Rolling**: a computation that asks a source for faces and may fail. The
tape keeps every request made before a failure. -/
abbrev Rolling (σ : Type) := ExceptT RollError (StateM (Tape σ))

/-- **A die that was rolled.** -/
structure Die where
  /-- Its number of sides. -/
  sides : Int
  /-- The face it shows. -/
  face : Face
deriving DecidableEq

/-- Whether a die shows its lowest or its highest face. -/
def Die.isExtremal (d : Die) : Bool :=
  d.face.count = 1 || d.face.count = d.sides

namespace Rolling

variable {σ : Type} [Source σ]

/-- Asks the source for a number, and keeps the request. -/
def ask (request : Request) : Rolling σ Reply := do
  let tape ← get
  let (reply, source) := Source.draw request tape.source
  set (⟨source, tape.asked.push request⟩ : Tape σ)
  return reply

/-- **Rolls one die.** -/
def die (sides : Int) : Rolling σ Die := do
  match ← ask (.face sides) with
  | .failure text => throw (RollError.sourceFailed sides text).raised
  | .value v =>
    match Face.ofValue? v with
    | some face =>
      if 1 ≤ face.count ∧ face.count ≤ sides then return ⟨sides, face⟩
      else throw (RollError.impossibleFace sides v).raised
    | none => throw (RollError.impossibleFace sides v).raised

/-- **Rolls equal dice**, one after the other; none if the count is negative. -/
def dice (count sides : Int) : Rolling σ (List Die) :=
  (List.replicate count.toNat sides).mapM die

end Rolling

end Tabletop

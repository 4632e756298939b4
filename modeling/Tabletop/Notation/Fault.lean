import Tabletop.Text.Decimal

/-!
# Faults of a notation

Why a text is not accepted as dice notation: one constructor per cause,
carrying the fragment or the number at fault and the limit it broke. A
fault has a code, a full message that opens with the code, and a short
remark to be shown beside an input field.
-/

namespace Tabletop

/-- **Why a text is no acceptable notation.** -/
inductive Fault
  /-- No cause is given. -/
  | unspecified
  /-- There is nothing but blanks. -/
  | emptyInput
  /-- This fragment cannot be understood where it stands. -/
  | malformed (text : String)
  /-- This group rolls no dice, or more than the maximum. -/
  | countOutOfRange (group : String) (count maximum : Int)
  /-- The dice of this group have fewer than two sides, or more than the maximum. -/
  | sidesOutOfRange (group : String) (sides maximum : Int)
  /-- The sum of the plain numbers lies farther from zero than the maximum. -/
  | modifierOutOfRange (value maximum : Int)
  /-- There are plain numbers but no dice. -/
  | noDice
deriving DecidableEq

namespace Fault

/-- The code of a fault. -/
def code : Fault → String
  | unspecified => "INVALID_EXPRESSION"
  | emptyInput => "EMPTY_INPUT"
  | malformed _ => "MALFORMED_GROUP"
  | countOutOfRange .. => "COUNT_OUT_OF_RANGE"
  | sidesOutOfRange .. => "SIDES_OUT_OF_RANGE"
  | modifierOutOfRange .. => "MODIFIER_OUT_OF_RANGE"
  | noDice => "NO_DICE_GROUPS"

/-- What closes the messages that quote no limit. -/
def usage : String := "Example: '2d6 + 3' or 'd20 - 1'."

/-- What went wrong, without the code. -/
def explanation : Fault → String
  | unspecified => "Invalid dice expression. " ++ usage
  | emptyInput => "Empty input. " ++ usage
  | malformed text => s!"Could not understand '{text}'. " ++ usage
  | countOutOfRange group count maximum =>
    s!"Group '{group}' rolls {count} dice; the count must be between 1 and {maximum}."
  | sidesOutOfRange group sides maximum =>
    s!"Die '{group}' has {sides} sides; dice must have between 2 and {maximum} sides."
  | modifierOutOfRange value maximum =>
    "Modifier " ++ Text.signed value ++ s!" is outside ±{maximum}."
  | noDice => "At least one die group is required. Example: 'd20' or '2d6 + 3'."

/-- **The message of a fault**: its code in brackets, then what went wrong. -/
def message (fault : Fault) : String :=
  "[" ++ fault.code ++ "] " ++ fault.explanation

/-- **The remark on a fault** for the one who typed the text. -/
def remark : Fault → String
  | emptyInput => "Please enter a dice expression (e.g. \"2d6+3\" or \"d20\")."
  | noDice => "Add at least one die, e.g. \"d20+5\" instead of \"+5\"."
  | malformed text => s!"\"{text}\" is not dice notation. Try formats like \"2d6+3\" or \"d20-1\"."
  | countOutOfRange group count maximum =>
    if count < 1 then s!"Invalid number of dice in {group}: roll at least 1."
    else s!"Too many dice in {group}. Maximum allowed is {maximum}."
  | sidesOutOfRange group sides maximum =>
    if sides < 2 then s!"Invalid die {group}: dice must have at least 2 sides."
    else s!"Die too large ({group}). Maximum allowed is d{maximum}."
  | modifierOutOfRange value maximum =>
    "Modifier too large (" ++ Text.signed value ++ s!"). Maximum allowed is ±{maximum}."
  | unspecified => message unspecified

end Fault

end Tabletop

import AnchorLint.Data.Value

/-!
# Values of the wrong kind

Where data is taken as found, an operation may meet a value that it is not
meant for.  What went wrong is told by the kinds of the values involved.
-/

namespace AnchorLint

/-- Why an operation on values of some kinds has no result. -/
inductive Mismatch where
  | incomparable (comparison kind other : Text)
  | noArithmetic (operation kind other : Text)
  | noJoining (kind other : Text)
  | notSearchable (kind : Text)
  | notKey (kind : Text)
  | notText (kind : Text)
  | noMember (kind member : Text)
  | notPosition (kind : Text)
  | notCount (kind : Text)
  | tooLargeForFloat
  | tooLargeForCount
deriving DecidableEq

namespace Mismatch

/-- A word between apostrophes. -/
def named (word : Text) : Text :=
  Quoted.apostrophe :: word ++ [Quoted.apostrophe]

/-- The complaint about values of the wrong kind. -/
def message : Mismatch → Text
  | incomparable comparison kind other =>
    named comparison ++ " not supported between instances of ".toList
      ++ named kind ++ " and ".toList ++ named other
  | noArithmetic operation kind other =>
    "unsupported operand type(s) for ".toList ++ operation ++ ": ".toList
      ++ named kind ++ " and ".toList ++ named other
  | noJoining kind other =>
    "can only concatenate ".toList ++ kind ++ " (not \"".toList ++ other
      ++ "\") to ".toList ++ kind
  | notSearchable kind =>
    "argument of type ".toList ++ named kind ++ " is not iterable".toList
  | notKey kind => "unhashable type: ".toList ++ named kind
  | notText kind =>
    "expected string or bytes-like object, got ".toList ++ named kind
  | noMember kind member =>
    named kind ++ " object has no attribute ".toList ++ named member
  | notPosition kind =>
    "tuple indices must be integers or slices, not ".toList ++ kind
  | notCount kind =>
    "can't multiply sequence by non-int of type ".toList ++ named kind
  | tooLargeForFloat => "int too large to convert to float".toList
  | tooLargeForCount =>
    "cannot fit 'int' into an index-sized integer".toList

end Mismatch

end AnchorLint

namespace Keyspace

inductive FailureKind where
  | malformed
  | wrongKind
  | outOfRange
  deriving DecidableEq

inductive Reply where
  | status (message : String)
  | integer (value : Int)
  | bulk (value : String)
  | nil
  | array (items : List String)
  | text (message : String)
  | error (kind : FailureKind) (message : String)
  deriving DecidableEq

namespace Reply

def ok : Reply := status "OK"

def isError : Reply → Bool
  | error _ _ => true
  | _ => false

def errorMarker : String := "(error)"

def quotes (s : String) : String := "\"" ++ s ++ "\""

/-- One line for each item, counted from the number given. -/
def numbered : Nat → List String → List String
  | _, [] => []
  | n, s :: ss => (toString n ++ ") " ++ quotes s) :: numbered (n + 1) ss

def render : Reply → String
  | status message => message
  | integer value => "(integer) " ++ toString value
  | bulk value => quotes value
  | nil => "(nil)"
  | array [] => "(empty array)"
  | array items => String.intercalate "\n" (numbered 1 items)
  | text message => message
  | error _ message => errorMarker ++ " " ++ message

/-- Whether a text is shown for a failed command. -/
def isErrorText (s : String) : Bool := errorMarker.toList.isPrefixOf s.toList

theorem isErrorText_render_error (kind : FailureKind) (message : String) :
    isErrorText (render (error kind message)) = true := by
  rw [isErrorText, List.isPrefixOf_iff_prefix]
  exact ⟨(" " ++ message).toList, by simp [render]⟩

end Reply

end Keyspace

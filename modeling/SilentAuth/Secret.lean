import SilentAuth.Text.Offset

/-!
# Showing secrets

A secret is shown as a fixed label, unless the reader asks for more: then its beginning is shown,
cut to a width in characters. Main statement: the place of the cut is never inside a character.
-/

namespace SilentAuth

/-- What a secret is a token of. -/
inductive SecretKind where
  | access
  | refresh
  | id
deriving DecidableEq

namespace SecretKind

/-- What is shown in place of a secret. -/
def label : SecretKind → String
  | .access => "***ACCESS TOKEN***"
  | .refresh => "***REFRESH TOKEN***"
  | .id => "***ID TOKEN***"

/-- The width to which a quoted secret is cut when no width is asked for. -/
def quotedWidth : SecretKind → Nat
  | .access => 15
  | .refresh => 5
  | .id => 15

end SecretKind

/-- What stands for the rest of a secret that was cut. -/
def ellipsis : String := "…"

/-- The beginning of a secret, at most as many characters as the width says, with the ellipsis
counted. It is cut at an offset in bytes; there is nothing if that is inside a character. -/
def revealed? (secret : String) : Nat → Option String
  | 0 => some ellipsis
  | 1 => some ellipsis
  | last + 2 =>
    -- no secret has more characters than bytes
    if secret.utf8ByteSize < last + 2 then some secret
    else
      match (withOffsets 0 secret.toList)[last]? with
      | some (offset, c) =>
        if offset + c.utf8Size < secret.utf8ByteSize then
          (frontAt? secret.toList (offset + c.utf8Size)).map fun front =>
            String.ofList front ++ ellipsis
        else some secret
      | none => some secret

/-- The cut is made behind a character. -/
theorem isSome_revealed? (secret : String) (width : Nat) :
    (revealed? secret width).isSome = true := by
  fun_cases revealed? secret width with
  | case4 last _ offset c hc => simp [(frontAt?_of_withOffsets hc).2]
  | _ => rfl

/-- The beginning of a secret, cut to a width in characters. -/
def revealed (secret : String) (width : Nat) : String :=
  (revealed? secret width).get (isSome_revealed? secret width)

/-- The greatest width. -/
def greatestWidth : Nat := 0xFFFFFFFFFFFFFFFF

/-- A secret as it is shown on request: cut to the width, if there is one. -/
def shown (secret : String) (width : Option Nat) : String :=
  revealed secret (width.getD greatestWidth)

/-- A secret as it is shown on request between quotes: always cut to a width. -/
def SecretKind.shownQuoted (kind : SecretKind) (secret : String) (width : Option Nat) : String :=
  "\"" ++ revealed secret (width.getD kind.quotedWidth) ++ "\""

end SilentAuth

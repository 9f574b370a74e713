import FixedReply.Text.Quoted

namespace FixedReply.Text

inductive Gap
  | beyond (limit : Nat)
  | unmapped
  | uncoded
  deriving DecidableEq, Repr

def Gap.message : Gap → String
  | beyond limit => s!"ordinal not in range({limit})"
  | unmapped => "character maps to <undefined>"
  | uncoded => "illegal multibyte sequence"

/-- The first run of characters without bytes, by position in the text. -/
structure Unencodable where
  codec : String
  gap : Gap
  char : Char
  first : Nat
  last : Nat
  deriving DecidableEq, Repr

namespace Unencodable

def message (e : Unencodable) : String :=
  let which :=
    if e.first = e.last then
      s!"character '{String.ofList (numbered e.char)}' in position {e.first}"
    else s!"characters in position {e.first}-{e.last}"
  s!"'{e.codec}' codec can't encode {which}: {e.gap.message}"

end Unencodable

end FixedReply.Text

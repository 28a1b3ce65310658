import Aokie.Lib.Json
import Aokie.Lib.Rust

/-! Reading a parsed JSON document, as `serde_json::Value` offers it, and `str::parse` for the numbers in a text. -/

namespace Aokie.Lib

def digitsValue (digits : List Char) : ℕ := digits.foldl (fun acc c => acc * 10 + (c.toNat - '0'.toNat)) 0

def parseDigits (digits : List Char) : Option ℕ :=
  if digits.isEmpty || !digits.all Char.isDigit || u64Max < digitsValue digits then none else some (digitsValue digits)

/-- `str::parse::<u64>`: a plus sign is allowed. -/
def parseU64 : List Char → Option ℕ
  | '+' :: digits => parseDigits digits
  | digits => parseDigits digits

namespace Json

def get (v : Json) (name : String) : Option Json :=
  match v with
  | object fields => fields.lookup name
  | _ => none

def asStr : Json → Option String
  | string text => some text
  | _ => none

/-- A number written with a sign, a fraction or an exponent is not a `u64`. -/
def asU64 : Json → Option ℕ
  | number n => parseDigits n.text
  | _ => none

def asArray : Json → Option (List Json)
  | array items => some items
  | _ => none

end Json

end Aokie.Lib

import TemplateTree.Text.Blank
import TemplateTree.Value
import TemplateTree.Yaml.Version

/-!
Numbers: which plain scalars have the form of one, and which numbers texts write. The forms are
narrow, and the numbers of texts with a tag are read more freely. Version 1.1 has numbers in base
sixty, whose digits stand between colons.
-/
namespace TemplateTree.Yaml

def splitSign : Text → Bool × Text
  | '-' :: text => (true, text)
  | '+' :: text => (false, text)
  | text => (false, text)

def isRun (isIn : Char → Bool) (text : Text) : Bool :=
  text ≠ [] && text.all fun c => isIn c || c = '_'

def isDigitOrUnderscore (c : Char) : Bool := c.isDigit || c = '_'

def isHexDigit (c : Char) : Bool := (Text.baseDigit? 16 c).isSome

def isSixtieth : Text → Bool
  | [c] => c.isDigit
  | [c, d] => '0' ≤ c && c ≤ '5' && d.isDigit
  | _ => false

/-! ## Forms -/

def isFirstDecimal (text : Text) : Bool :=
  let positive := fun (digits : Text) =>
    (digits.head?.any fun c => '1' ≤ c && c ≤ '9') && digits.all isDigitOrUnderscore
  match text.pieces (· = ':') with
  | [digits] => digits = ['0'] || positive digits
  | first :: rest => positive first && rest.all isSixtieth
  | [] => false

def isIntegerForm (version : Version) (text : Text) : Bool :=
  (text.head?.any fun c => c = '-' || c = '+' || c.isDigit) &&
    match (splitSign text).2 with
    | '0' :: 'b' :: digits => isRun (fun c => c = '0' || c = '1') digits
    | '0' :: 'x' :: digits => isRun isHexDigit digits
    | '0' :: 'o' :: digits => !version.isFirst && isRun (fun c => '0' ≤ c && c ≤ '7') digits
    | digits =>
        if version.isFirst then
          isRun (fun c => '0' ≤ c && c ≤ '7') digits || isFirstDecimal digits
        else isRun Char.isDigit digits

def isExponent (needsSign : Bool) : Text → Bool
  | e :: text =>
      let digits := (splitSign text).2
      (e = 'e' || e = 'E') && digits ≠ [] && digits.all Char.isDigit &&
        (!needsSign || digits.length < text.length)
  | [] => false

def isFraction (version : Version) (text : Text) : Bool :=
  match text.dropWhile isDigitOrUnderscore with
  | '.' :: rest =>
      let ending := rest.dropWhile isDigitOrUnderscore
      ending = [] || isExponent false ending
  | ':' :: rest =>
      let sixtieths := Text.pieces (· = ':') (rest.takeWhile (· ≠ '.'))
      version.isFirst && sixtieths.all isSixtieth &&
        match rest.dropWhile (· ≠ '.') with
        | _ :: places => places.all isDigitOrUnderscore
        | [] => false
  | ending => isExponent false ending

def isRealForm (version : Version) (text : Text) : Bool :=
  let magnitude := (splitSign text).2
  match magnitude with
  | '.' :: rest =>
      let name := String.ofList rest
      let digits := rest.takeWhile isDigitOrUnderscore
      let ending := rest.drop digits.length
      let isSigned := magnitude.length < text.length
      ["inf", "Inf", "INF"].contains name ||
        (!isSigned && ["nan", "NaN", "NAN"].contains name) ||
        (!(isSigned && version.isFirst) && digits ≠ [] &&
          (ending = [] || isExponent true ending))
  | c :: _ => c.isDigit && isFraction version magnitude
  | [] => false

/-! ## Whole numbers -/

def plainDigit (c : Char) : Char :=
  match Text.digitValue? c with
  | some value => Nat.digitChar value
  | none => c

def dropBaseMark (base : Nat) (text : Text) : Text :=
  let mark := match base with
    | 2 => 'b'
    | 8 => 'o'
    | 16 => 'x'
    | _ => '0'
  match text with
  | '0' :: c :: digits => if base ≠ 10 ∧ c.toLower = mark then digits else text
  | text => text

def integerOfBase (base : Nat) (text : Text) : Except ValueFault Int :=
  let (negative, magnitude) := splitSign (text.trim.map plainDigit)
  let digits := dropBaseMark base magnitude
  let run := digits.takeWhile fun c => (Text.baseDigit? base c).isSome
  if base = 10 ∧ ValueFault.digitLimit < run.length then .error (.integerTooLong run.length)
  else if run = [] ∨ run.length < digits.length then .error (.notInteger base text)
  else
    let size : Int := (Text.baseValue? base run).getD 0
    .ok (if negative then -size else size)

def ofSixtieths (digits : List Int) : Int := digits.foldl (fun value digit => value * 60 + digit) 0

def magnitude (version : Version) (text : Text) : Except ValueFault Int :=
  match text with
  | '0' :: 'b' :: digits => integerOfBase 2 digits
  | '0' :: 'x' :: digits => integerOfBase 16 digits
  | '0' :: 'o' :: digits => integerOfBase 8 digits
  | _ =>
      if version.isFirst then
        if text = [] then .error .emptyNumber
        else if text ≠ ['0'] ∧ text.head? = some '0' then integerOfBase 8 text
        else if text.contains ':' then do
          let digits ← (text.pieces (· = ':')).mapM (integerOfBase 10)
          return ofSixtieths digits
        else integerOfBase 10 text
      else integerOfBase 10 text

def integer (version : Version) (text : Text) : Except ValueFault Int :=
  let digits := text.filter (· ≠ '_')
  if digits = [] then .error .emptyNumber
  else do
    let (negative, rest) := splitSign digits
    let size ← magnitude version rest
    return if negative then -size else size

/-! ## Fractions -/

def decimal? (text : Text) : Option Decimal :=
  let whole := text.takeWhile Char.isDigit
  let behind := text.drop whole.length
  let (places, ending) := match behind with
    | '.' :: rest => (rest.takeWhile Char.isDigit, rest.dropWhile Char.isDigit)
    | rest => ([], rest)
  let exponent : Option Int :=
    if ending = [] then some 0
    else if isExponent false ending then
      let (negative, digits) := splitSign (ending.drop 1)
      let size : Int := Text.digitsValue digits
      some (if negative then -size else size)
    else none
  if whole ++ places = [] then none
  else exponent.map fun exponent =>
    ⟨Text.digitsValue (whole ++ places), exponent - places.length⟩

def binary? (text : Text) : Option Binary :=
  let (negative, magnitude) := splitSign (text.trim.map plainDigit)
  if ["inf", "infinity"].contains (String.ofList magnitude) then some (.infinite negative)
  else if magnitude = "nan".toList then some .undefined
  else (decimal? magnitude).map (Decimal.toBinary negative)

def negated : Binary → Binary
  | .finite negative mantissa exponent => .finite (!negative) mantissa exponent
  | .infinite negative => .infinite (!negative)
  | .undefined => .undefined

def sixtieths (text : Text) : Except ValueFault Binary := do
  let digits ← (text.pieces (· = ':')).mapM fun (written : Text) =>
    match decimal? (written.trim.map plainDigit) with
    | some decimal => Except.ok decimal
    | none => .error (.notReal written)
  let least := digits.foldl (fun least digit => min least digit.exponent) 0
  let value := digits.foldl (fun value digit =>
    value * 60 + digit.digits * tenTo (digit.exponent - least)) 0
  return Decimal.toBinary false ⟨value, least⟩

def real (version : Version) (text : Text) : Except ValueFault Binary :=
  let written := (text.filter (· ≠ '_')).map Char.toLower
  if written = [] then .error .emptyNumber
  else do
    let (negative, rest) := splitSign written
    let size ←
      if rest = ".inf".toList then pure (Binary.infinite false)
      else if rest = ".nan".toList then pure .undefined
      else if version ≠ .standard ∧ rest.contains ':' then sixtieths rest
      else match binary? rest with
        | some value => pure value
        | none => throw (.notReal rest)
    return if negative then negated size else size

end TemplateTree.Yaml

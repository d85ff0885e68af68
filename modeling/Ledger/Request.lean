import Ledger.Account
import Ledger.Entry
import Ledger.Amount

/-!
Requests and their field rules.

A request names the fields a caller gives. Each field carries rules; a field breaks at its
first broken rule. A request is refused at its first field, in field order, that breaks a
rule (`violation`), or with every such field listed (`violations`). Rule names are written
with their parameter (`max=50`) in a refusal and without it (`max`) in a listing. Lengths
count characters. Line fields of an entry are named by their position (`Lines[0]`).
-/

namespace Ledger

/-- A rule on one field. -/
inductive Rule where
  /-- The text is not empty. -/
  | required
  /-- At most `n` characters. -/
  | maxLen (n : Nat)
  /-- At least `n` characters. -/
  | minLen (n : Nat)
  /-- One of the five account type names. -/
  | accountType
  /-- Empty, or one of the two side names. -/
  | normalSide
  /-- ASCII letters and digits only, at least one. -/
  | alphanum
  /-- One of the listed texts. -/
  | oneOf (choices : List String)
  /-- A non-negative amount of at most two places. -/
  | amount
  /-- A number of at least `n`. -/
  | atLeast (n : Int)
  /-- A number of at most `n`. -/
  | atMost (n : Int)
  deriving Repr, DecidableEq

/-- A field value as rules see it. -/
inductive FieldValue where
  | text (s : String)
  | number (n : Int)
  | money (d : Decimal)
  deriving Repr

namespace Rule

/-- The rule's name without its parameter. -/
def name : Rule → String
  | .required => "required"
  | .maxLen _ => "max"
  | .minLen _ => "min"
  | .accountType => "account_type"
  | .normalSide => "normal_side"
  | .alphanum => "alphanum"
  | .oneOf _ => "oneof"
  | .amount => "amount"
  | .atLeast _ => "min"
  | .atMost _ => "max"

/-- The rule as it is named in a refusal. -/
def tag : Rule → String
  | .required => "required"
  | .maxLen n => "max=" ++ toString n
  | .minLen n => "min=" ++ toString n
  | .accountType => "account_type"
  | .normalSide => "normal_side"
  | .alphanum => "alphanum"
  | .oneOf cs => "oneof=" ++ " ".intercalate cs
  | .amount => "amount"
  | .atLeast n => "min=" ++ toString n
  | .atMost n => "max=" ++ toString n

/-- An ASCII letter or digit. -/
def isAsciiAlnum (c : Char) : Bool :=
  ('a' ≤ c && c ≤ 'z') || ('A' ≤ c && c ≤ 'Z') || ('0' ≤ c && c ≤ '9')

/-- The value keeps the rule. -/
def holds : Rule → FieldValue → Bool
  | .required, .text s => !s.isEmpty
  | .maxLen n, .text s => s.length ≤ n
  | .minLen n, .text s => n ≤ s.length
  | .accountType, .text s => (AccountType.ofName? s).isSome
  | .normalSide, .text s => s.isEmpty || (Side.ofName? s).isSome
  | .alphanum, .text s => !s.isEmpty && s.toList.all isAsciiAlnum
  | .oneOf cs, .text s => cs.contains s
  | .amount, .money d => (Amount.check "" d).toBool
  | .atLeast n, .number k => n ≤ k
  | .atMost n, .number k => k ≤ n
  | _, _ => true

end Rule

/-- A refused field: its path, its own name and the rule it breaks. -/
structure Violation where
  path : String
  name : String
  rule : Rule
  deriving Repr

/-- One line of a listing of refused fields. -/
def Violation.line (v : Violation) : String :=
  "Key: '" ++ v.path ++ "' Error:Field validation for '" ++ v.name ++ "' failed on the '" ++
    v.rule.name ++ "' tag"

/-- A listing of refused fields, one per line. -/
def Violation.listing (vs : List Violation) : String := "\n".intercalate (vs.map Violation.line)

/-- A field with its rules. With `optional`, an empty value (empty text, zero, or a field
not given) is not checked at all. -/
structure Field where
  name : String
  value : Option FieldValue
  rules : List Rule
  optional : Bool := false

namespace Field

/-- The value counts as not given. -/
def isEmpty : Option FieldValue → Bool
  | none => true
  | some (.text s) => s.isEmpty
  | some (.number n) => n == 0
  | some (.money d) => d.isZero

/-- The first rule the field breaks. -/
def broken (f : Field) : Option Rule :=
  if f.optional && isEmpty f.value then none
  else match f.value with
    | none => none
    | some v => f.rules.find? (fun r => !r.holds v)

end Field

/-- Every field, in order, that breaks a rule, named under `pre`. -/
def allViolations (pre : String) (fields : List Field) : List Violation :=
  fields.filterMap fun f => f.broken.map fun r => ⟨pre ++ f.name, f.name, r⟩

/-- A request to open an account. Type and side are kept as given, so a refusal can quote
them. -/
structure AccountRequest where
  code : String := ""
  name : String := ""
  description : String := ""
  type : String := ""
  side : String := ""
  /-- Code of the parent; none or empty for a root. -/
  parent : Option String := none
  cashFlow : Bool := false
  opening : Decimal := Decimal.zero
  deriving Repr, Inhabited

/-- Changes to an account; a field left out is not changed. -/
structure AccountPatch where
  name : Option String := none
  description : Option String := none
  parent : Option String := none
  active : Option Bool := none
  cashFlow : Option Bool := none
  deriving Repr, Inhabited

/-- One line of a requested entry. -/
structure LineRequest where
  code : String := ""
  debit : Decimal := Decimal.zero
  credit : Decimal := Decimal.zero
  description : String := ""
  costCenter : String := ""
  projectCode : String := ""
  relatedRef : String := ""
  deriving Repr, Inhabited

/-- A requested entry; a zero date means "now". -/
structure EntryRequest where
  date : Timestamp := Timestamp.zero
  voucher : String := ""
  description : String := ""
  reference : String := ""
  lines : List LineRequest := []
  /-- Lines past the end of `lines` that an earlier, longer list of lines of the same request
  decoded; a later list of lines decodes into them again. They are not part of the request. -/
  spareLines : List LineRequest := []
  deriving Repr, Inhabited

/-- A page request of the entry listing. -/
structure EntryQuery where
  status : String := ""
  limit : Int := 0
  token : String := ""
  deriving Repr, Inhabited

/-- A filter of the account listing. -/
structure AccountQuery where
  type : String := ""
  activeOnly : Bool := false
  deriving Repr, Inhabited

namespace AccountRequest

/-- The fields with their rules, in order. -/
def fields (r : AccountRequest) : List Field :=
  [⟨"Code", some (.text r.code), [.required, .maxLen 50], false⟩,
   ⟨"Name", some (.text r.name), [.required, .maxLen 255], false⟩,
   ⟨"Description", some (.text r.description), [.maxLen 1000], false⟩,
   ⟨"AccountType", some (.text r.type), [.required, .accountType], false⟩,
   ⟨"NormalSide", some (.text r.side), [.normalSide], false⟩,
   ⟨"OpeningBalance", some (.money r.opening), [.amount], false⟩]

/-- Every broken rule. -/
def violations (r : AccountRequest) : List Violation :=
  allViolations "CreateAccountRequest." r.fields

/-- The first broken rule. -/
def violation (r : AccountRequest) : Option Violation := r.violations.head?

end AccountRequest

namespace AccountPatch

/-- The fields with their rules, in order; fields not given are not checked. -/
def fields (p : AccountPatch) : List Field :=
  [⟨"Name", p.name.map .text, [.minLen 1, .maxLen 255], false⟩,
   ⟨"Description", p.description.map .text, [.maxLen 1000], false⟩]

/-- Every broken rule. -/
def violations (p : AccountPatch) : List Violation :=
  allViolations "UpdateAccountRequest." p.fields

/-- The first broken rule. -/
def violation (p : AccountPatch) : Option Violation := p.violations.head?

end AccountPatch

namespace LineRequest

/-- The fields with their rules, in order. -/
def fields (l : LineRequest) : List Field :=
  [⟨"AccountCode", some (.text l.code), [.required, .maxLen 50], false⟩,
   ⟨"DebitAmount", some (.money l.debit), [.amount], false⟩,
   ⟨"CreditAmount", some (.money l.credit), [.amount], false⟩,
   ⟨"Description", some (.text l.description), [.maxLen 500], false⟩,
   ⟨"CostCenter", some (.text l.costCenter), [.maxLen 50], false⟩,
   ⟨"ProjectCode", some (.text l.projectCode), [.maxLen 50], false⟩,
   ⟨"RelatedReferenceID", some (.text l.relatedRef), [.maxLen 100], false⟩]

/-- Every broken rule, naming fields under `pre`. -/
def violationsUnder (pre : String) (l : LineRequest) : List Violation :=
  allViolations pre l.fields

/-- The first broken rule, naming fields under `pre`. -/
def violationUnder (pre : String) (l : LineRequest) : Option Violation :=
  (l.violationsUnder pre).head?

/-- The first broken rule of a line on its own. -/
def violation (l : LineRequest) : Option Violation := l.violationUnder "JournalLineRequest."

/-- Every broken rule of a line on its own. -/
def violations (l : LineRequest) : List Violation := l.violationsUnder "JournalLineRequest."

end LineRequest

/-- Every broken rule of the lines, line by line from position `i`. -/
def lineViolations : Nat → List LineRequest → List Violation
  | _, [] => []
  | i, l :: rest =>
    l.violationsUnder ("CreateJournalEntryRequest.Lines[" ++ toString i ++ "].") ++
      lineViolations (i + 1) rest

namespace EntryRequest

/-- The header fields with their rules, in order. -/
def fields (r : EntryRequest) : List Field :=
  [⟨"VoucherType", some (.text r.voucher), [.alphanum, .maxLen 10], true⟩,
   ⟨"Description", some (.text r.description), [.maxLen 1000], false⟩,
   ⟨"ReferenceNumber", some (.text r.reference), [.maxLen 100], false⟩]

/-- Every broken rule: header fields first, then the lines in order. -/
def violations (r : EntryRequest) : List Violation :=
  allViolations "CreateJournalEntryRequest." r.fields ++ lineViolations 0 r.lines

/-- The first broken rule. -/
def violation (r : EntryRequest) : Option Violation := r.violations.head?

end EntryRequest

namespace EntryQuery

/-- The fields with their rules, in order. -/
def fields (q : EntryQuery) : List Field :=
  [⟨"Status", some (.text q.status), [.oneOf ["DRAFT", "POSTED", "REVERSED"]], true⟩,
   ⟨"Limit", some (.number q.limit), [.atLeast 1, .atMost 100], true⟩]

/-- Every broken rule. -/
def violations (q : EntryQuery) : List Violation :=
  allViolations "ListJournalEntriesParams." q.fields

/-- The first broken rule. -/
def violation (q : EntryQuery) : Option Violation := q.violations.head?

end EntryQuery

namespace AccountQuery

/-- The fields with their rules, in order. -/
def fields (q : AccountQuery) : List Field :=
  [⟨"Type", some (.text q.type), [.accountType], true⟩]

/-- Every broken rule. -/
def violations (q : AccountQuery) : List Violation :=
  allViolations "ListAccountsParams." q.fields

/-- The first broken rule. -/
def violation (q : AccountQuery) : Option Violation := q.violations.head?

end AccountQuery

end Ledger

import GameDay.Proofs.Text.Numerals
import Mathlib.Data.List.Forall2

namespace GameDay.Text

inductive Datum
  | null
  | boolean (b : Bool)
  | number (written : String)
  | text (s : String)
  | list (items : List Datum)
  | record (fields : List (String × Datum))

namespace Datum

def isBlank (c : Char) : Bool := c = ' ' || c = '\t' || c = '\n' || c = '\r'

def after? (c : Char) (cs : List Char) : Option (List Char) :=
  match cs.dropWhile isBlank with
  | d :: rest => if d = c then some rest else none
  | [] => none

def escaped? (c : Char) : Option Char :=
  if c = '"' ∨ c = '\\' ∨ c = '/' then some c
  else if c = 'b' then some (Char.ofNat 8)
  else if c = 'f' then some (Char.ofNat 12)
  else if c = 'n' then some '\n'
  else if c = 'r' then some '\r'
  else if c = 't' then some '\t'
  else none

def coded? (digits : List Char) : Option Char := do
  let values ← digits.mapM hexValue?
  let code := values.foldl (fun n d => 16 * n + d) 0
  if code.isValidChar then some (Char.ofNat code) else none

def chars? : List Char → Option (List Char × List Char)
  | [] => none
  | '"' :: rest => some ([], rest)
  | '\\' :: 'u' :: i :: j :: k :: l :: rest => do
    let c ← coded? [i, j, k, l]
    let (cs, rest) ← chars? rest
    return (c :: cs, rest)
  | '\\' :: e :: rest => do
    let c ← escaped? e
    let (cs, rest) ← chars? rest
    return (c :: cs, rest)
  | c :: rest =>
    if c.toNat < 32 then none
    else do
      let (cs, rest) ← chars? rest
      return (c :: cs, rest)

def isBare (c : Char) : Bool := c.isAlphanum || c = '-' || c = '+' || c = '.'

def bare? (word : List Char) : Option Datum :=
  if Json.isNumeral word then some (number (String.ofList word))
  else if word = "null".toList then some null
  else if word = "true".toList then some (boolean true)
  else if word = "false".toList then some (boolean false)
  else none

/-- Parts with commas between them, up to the mark that closes them. The number bounds how many they are. -/
def parts? {α : Type} (close : Char) (part? : List Char → Option (α × List Char)) :
    Nat → List Char → Option (List α × List Char)
  | 0, _ => none
  | n + 1, cs => do
    let (part, rest) ← part? cs
    match after? close rest with
    | some rest => return ([part], rest)
    | none => do
      let (parts, rest) ← parts? close part? n (← after? ',' rest)
      return (part :: parts, rest)

def enclosed? {α : Type} (close : Char) (part? : List Char → Option (α × List Char)) (n : Nat)
    (cs : List Char) : Option (List α × List Char) :=
  match after? close cs with
  | some rest => some ([], rest)
  | none => parts? close part? n cs

def named? (value? : List Char → Option (Datum × List Char)) (cs : List Char) :
    Option ((String × Datum) × List Char) := do
  let (name, rest) ← chars? (← after? '"' cs)
  let (value, rest) ← value? (← after? ':' rest)
  return ((String.ofList name, value), rest)

/-- The document in front, and what follows it. The number bounds how far it reaches. -/
def value? : Nat → List Char → Option (Datum × List Char)
  | 0, _ => none
  | _ + 1, [] => none
  | n + 1, c :: rest =>
    if isBlank c then value? n rest
    else if c = '"' then do
      let (cs, rest) ← chars? rest
      return (text (String.ofList cs), rest)
    else if c = '[' then do
      let (items, rest) ← enclosed? ']' (value? n) n rest
      return (list items, rest)
    else if c = '\x7b' then do
      let (fields, rest) ← enclosed? '\x7d' (named? (value? n)) n rest
      return (record fields, rest)
    else do
      let d ← bare? ((c :: rest).takeWhile isBare)
      return (d, (c :: rest).dropWhile isBare)

def read? (text : String) : Option Datum := do
  let (d, rest) ← value? text.length text.toList
  if rest.all isBlank then some d else none

def boolean? : Datum → Option Bool
  | boolean b => some b
  | _ => none

def number? : Datum → Option String
  | number written => some written
  | _ => none

def natural? : Datum → Option Nat
  | number written =>
    if Json.isDigits written.toList then some (Nat.ofDigitChars 10 written.toList 0) else none
  | _ => none

def text? : Datum → Option String
  | text s => some s
  | _ => none

def texts? : Datum → Option (List String)
  | list items => items.mapM text?
  | _ => none

end Datum

namespace Json

mutual

def datum : Json → Datum
  | boolean b => .boolean b
  | natural n => .number (toString n)
  | real (.finite negative m e) => .number (Decimal.document negative m e)
  | real _ => .null
  | text s => .text s
  | list items => .list (itemData items)
  | record fields => .record (fieldData fields)

def itemData : List Json → List Datum
  | [] => []
  | item :: items => datum item :: itemData items

def fieldData : List (String × Json) → List (String × Datum)
  | [] => []
  | (name, value) :: fields => (name, datum value) :: fieldData fields

end

end Json

namespace Datum

section Texts

variable {rest : List Char}

theorem chars?_of_escaped {e c : Char} (h : escaped? e = some c) :
    chars? ('\\' :: e :: rest) = (chars? rest).map (Prod.map (c :: ·) id) := by
  have other : e ≠ 'u' := by
    rintro rfl
    cases (by decide : escaped? 'u' = none).symm.trans h
  rw [chars?]
  · rw [h]
    cases chars? rest <;> rfl
  · simp [other]

theorem chars?_of_coded {i j k l c : Char} (h : coded? [i, j, k, l] = some c) :
    chars? ('\\' :: 'u' :: i :: j :: k :: l :: rest) = (chars? rest).map (Prod.map (c :: ·) id) := by
  rw [chars?, h]
  cases chars? rest <;> rfl

theorem chars?_of_plain {c : Char} (quote : c ≠ '"') (backslash : c ≠ '\\') (visible : 32 ≤ c.toNat) :
    chars? (c :: rest) = (chars? rest).map (Prod.map (c :: ·) id) := by
  rw [chars?]
  · rw [if_neg (by omega)]
    cases chars? rest <;> rfl
  · simp [quote]
  · simp [backslash]
  · simp [backslash]

def codeDigits (n : Nat) : List Char :=
  [hexDigit (n / 16 ^ 3 % 16), hexDigit (n / 16 ^ 2 % 16), hexDigit (n / 16 % 16), hexDigit (n % 16)]

theorem coded?_hex : ∀ n < 32, coded? (codeDigits n) = some (Char.ofNat n) := by
  decide

theorem toList_hex (n : Nat) : (hex 4 n).toList = codeDigits n := by
  rw [hex, String.toList_ofList]
  simp [codeDigits, List.range_succ]

theorem chars?_escape (c : Char) :
    chars? ((Json.escape c).toList ++ rest) = (chars? rest).map (Prod.map (c :: ·) id) := by
  unfold Json.escape
  split
  · exact chars?_of_escaped (by decide)
  · exact chars?_of_escaped (by decide)
  · exact chars?_of_escaped (by decide)
  · exact chars?_of_escaped (by decide)
  · exact chars?_of_escaped (by decide)
  · rename_i quote backslash _ _ _
    split
    · rename_i code
      obtain rfl : c = Char.ofNat 8 := by rw [← code, Char.ofNat_toNat]
      exact chars?_of_escaped (by decide)
    split
    · rename_i code
      obtain rfl : c = Char.ofNat 12 := by rw [← code, Char.ofNat_toNat]
      exact chars?_of_escaped (by decide)
    split
    · rename_i control
      have read := coded?_hex c.toNat control
      rw [Char.ofNat_toNat] at read
      have written : ("\\u" ++ hex 4 c.toNat).toList = '\\' :: 'u' :: codeDigits c.toNat := by
        simp [String.toList_append, toList_hex]
      rw [written]
      exact chars?_of_coded read
    · rename_i visible
      simpa using chars?_of_plain quote backslash (Nat.not_lt.1 visible)

theorem chars?_quoted (cs : List Char) :
    chars? (cs.flatMap (fun c => (Json.escape c).toList) ++ '"' :: rest) = some (cs, rest) := by
  induction cs with
  | nil => rfl
  | cons c cs ih => rw [List.flatMap_cons, List.append_assoc, chars?_escape, ih]; rfl

theorem toList_quoted (s : String) : (Json.quoted s).toList =
    '"' :: (s.toList.flatMap (fun c => (Json.escape c).toList) ++ ['"']) := by
  simp [Json.quoted, String.toList_append, String.toList_join, List.flatMap_map]

end Texts

section Words

variable {w rest : List Char} {c : Char}

theorem isBare_of_isDigit (h : c.isDigit = true) : isBare c = true := by
  simp [isBare, Char.isAlphanum, h]

theorem isBare_of_isMark (h : Json.isMark c = true) : isBare c = true := by
  simp only [Json.isMark, Bool.or_eq_true, decide_eq_true_eq] at h
  rcases h with rfl | rfl <;> decide

theorem isBare_of_isDigits (h : Json.isDigits w = true) : ∀ c ∈ w, isBare c = true :=
  fun c hc => isBare_of_isDigit ((Json.isDigits_iff.1 h).2 c hc)

theorem isBare_of_isFraction (h : Json.isFraction w = true) : ∀ c ∈ w, isBare c = true := by
  cases w with
  | nil => simp
  | cons point digits =>
    simp only [Json.isFraction, Bool.and_eq_true, decide_eq_true_eq] at h
    obtain ⟨rfl, digits⟩ := h
    exact List.forall_mem_cons.2 ⟨by decide, isBare_of_isDigits digits⟩

theorem isBare_of_isExponent (h : Json.isExponent w = true) : ∀ c ∈ w, isBare c = true := by
  cases w with
  | nil => simp
  | cons mark cs =>
    simp only [Json.isExponent, Bool.and_eq_true, Bool.or_eq_true, decide_eq_true_eq] at h
    obtain ⟨mark, digits | ⟨sign, digits⟩⟩ := h
    · exact List.forall_mem_cons.2 ⟨isBare_of_isMark mark, isBare_of_isDigits digits⟩
    · cases cs with
      | nil => simp [isBare_of_isMark mark]
      | cons c cs =>
        have bare : isBare c = true := by
          simp only [List.head?_cons, Option.some.injEq] at sign
          rcases sign with rfl | rfl <;> decide
        exact List.forall_mem_cons.2 ⟨isBare_of_isMark mark,
          List.forall_mem_cons.2 ⟨bare, isBare_of_isDigits digits⟩⟩

theorem isBare_of_isUnsigned (h : Json.isUnsigned w = true) : ∀ c ∈ w, isBare c = true := by
  simp only [Json.isUnsigned, Bool.and_eq_true] at h
  obtain ⟨⟨whole, fraction⟩, exponent⟩ := h
  intro c hc
  rw [← List.takeWhile_append_dropWhile (p := Char.isDigit) (l := w)] at hc
  rcases List.mem_append.1 hc with hc | hc
  · exact isBare_of_isDigits (Json.digits_of_isWhole whole) c hc
  · rw [← List.takeWhile_append_dropWhile (p := (!Json.isMark ·)) (l := w.dropWhile _)] at hc
    rcases List.mem_append.1 hc with hc | hc
    · exact isBare_of_isFraction fraction c hc
    · exact isBare_of_isExponent exponent c hc

theorem isBare_of_isNumeral (h : Json.isNumeral w = true) : ∀ c ∈ w, isBare c = true := by
  unfold Json.isNumeral at h
  cases w with
  | nil => simp
  | cons c cs =>
    split at h
    · rename_i sign
      simp only [List.head?_cons, Option.some.injEq] at sign
      exact List.forall_mem_cons.2 ⟨by rw [sign]; decide, isBare_of_isUnsigned h⟩
    · exact isBare_of_isUnsigned h

theorem bare_start (h : isBare c = true) :
    isBlank c = false ∧ c ≠ '"' ∧ c ≠ '[' ∧ c ≠ ']' ∧ c ≠ '\x7b' := by
  refine ⟨?_, ?_, ?_, ?_, ?_⟩
  · rw [Bool.eq_false_iff]
    intro blank
    simp only [isBlank, Bool.or_eq_true, decide_eq_true_eq] at blank
    rcases blank with ((rfl | rfl) | rfl) | rfl <;> exact absurd h (by decide)
  all_goals
    rintro rfl
    exact absurd h (by decide)

theorem exists_succ {cs : List Char} {n : Nat} (enough : (c :: cs).length ≤ n) : ∃ k, n = k + 1 :=
  ⟨n - 1, by rw [List.length_cons] at enough; omega⟩

def Ends (rest : List Char) : Prop := ∀ c ∈ rest.head?, isBare c = false

theorem value?_bare {d : Datum} (read : bare? w = some d) (some : w ≠ []) (bare : ∀ c ∈ w, isBare c = true)
    (ends : Ends rest) {n : Nat} (enough : w.length ≤ n) : value? n (w ++ rest) = .some (d, rest) := by
  obtain ⟨c, cs, rfl⟩ := List.exists_cons_of_ne_nil some
  obtain ⟨n, rfl⟩ := exists_succ enough
  obtain ⟨blank, quote, bracket, -, brace⟩ := bare_start (bare c List.mem_cons_self)
  obtain ⟨word, follows⟩ := Json.takeWhile_stops bare ends
  rw [List.cons_append] at word follows ⊢
  rw [value?, if_neg (by simp [blank]), if_neg quote, if_neg bracket, if_neg brace, word, follows, read]
  rfl

end Words

section Parts

variable {α : Type} {part? : List Char → Option (α × List Char)} {rest : List Char} {close : Char}

theorem after?_self {c : Char} (h : isBlank c = false) : after? c (c :: rest) = some rest := by
  simp [after?, h]

theorem after?_other {c d : Char} (h : isBlank d = false) (other : d ≠ c) : after? c (d :: rest) = none := by
  simp [after?, h, other]

def joined (parts : List String) : List Char := [','].intercalate (parts.map String.toList)

theorem joined_cons_cons (part next : String) (parts : List String) :
    joined (part :: next :: parts) = part.toList ++ ',' :: joined (next :: parts) := by
  simp [joined]

theorem exists_joined (part : String) (parts : List String) :
    ∃ more, joined (part :: parts) = part.toList ++ more := by
  cases parts with
  | nil => exact ⟨[], by simp [joined]⟩
  | cons next parts => exact ⟨_, joined_cons_cons part next parts⟩

theorem length_le_joined (parts : List String) :
    parts.length ≤ (joined parts).length + 1 ∧ ∀ part ∈ parts, part.toList.length ≤ (joined parts).length := by
  induction parts with
  | nil => simp
  | cons part parts ih =>
    cases parts with
    | nil => simp [joined]
    | cons next parts =>
      obtain ⟨count, each⟩ := ih
      simp only [joined_cons_cons, List.length_append, List.length_cons] at count each ⊢
      refine ⟨by omega, List.forall_mem_cons.2 ⟨by omega, fun part mem => ?_⟩⟩
      have := each part mem
      omega

theorem exists_room {start : Char} {parts : List String} {n : Nat}
    (enough : (start :: (joined parts ++ [close])).length ≤ n) :
    ∃ k, n = k + 1 ∧ (joined parts).length < k ∧ ∀ part ∈ parts, part.toList.length ≤ k := by
  simp only [List.length_cons, List.length_append] at enough
  refine ⟨n - 1, by omega, by omega, fun part mem => ?_⟩
  have := (length_le_joined parts).2 part mem
  omega

theorem toList_enclosed (before after : String) (parts : List String) :
    (Json.enclosed before after "" "" parts).toList =
      before.toList ++ (joined parts ++ after.toList) := by
  cases parts with
  | nil => simp [Json.enclosed, joined, String.toList_append]
  | cons part parts => simp [Json.enclosed, joined, String.toList_append, String.toList_intercalate]

def Reads (part? : List Char → Option (α × List Char)) (part : String) (a : α) : Prop :=
  ∀ (c : Char) (rest : List Char), isBare c = false → part? (part.toList ++ c :: rest) = some (a, c :: rest)

def StartsApart (mark : Char) (part : String) : Prop :=
  ∃ c cs, part.toList = c :: cs ∧ isBlank c = false ∧ c ≠ mark

theorem parts?_joined {parts : List String} {as : List α} (each : List.Forall₂ (Reads part?) parts as)
    (nonempty : parts ≠ []) (mark : isBare close = false ∧ isBlank close = false ∧ close ≠ ',') {n : Nat}
    (enough : parts.length ≤ n) : parts? close part? n (joined parts ++ close :: rest) = some (as, rest) := by
  induction each generalizing n with
  | nil => exact absurd rfl nonempty
  | @cons part a parts as first each ih =>
    obtain ⟨n, rfl⟩ : ∃ k, n = k + 1 := ⟨n - 1, by rw [List.length_cons] at enough; omega⟩
    obtain ⟨bare, blank, comma⟩ := mark
    cases each with
    | nil => simp [parts?, joined, first close rest bare, after?_self blank]
    | @cons next b parts as second each =>
      have more := ih (by simp) (by simpa using enough)
      rw [joined_cons_cons, List.append_assoc, List.cons_append, parts?, first ',' _ (by decide)]
      simp [after?_other (c := close) (d := ',') (by decide) comma.symm, after?_self (c := ',') (by decide), more]

theorem enclosed?_joined {parts : List String} {as : List α} (each : List.Forall₂ (Reads part?) parts as)
    (starts : ∀ part ∈ parts, StartsApart close part)
    (mark : isBare close = false ∧ isBlank close = false ∧ close ≠ ',') {n : Nat}
    (enough : (joined parts).length < n) :
    enclosed? close part? n (joined parts ++ close :: rest) = some (as, rest) := by
  cases parts with
  | nil =>
    cases each
    simp [enclosed?, joined, after?_self mark.2.1]
  | cons part parts =>
    obtain ⟨c, cs, start, blank, other⟩ := starts part List.mem_cons_self
    obtain ⟨more, text⟩ := exists_joined part parts
    have unclosed : after? close (joined (part :: parts) ++ close :: rest) = none := by
      rw [text, start]
      exact after?_other blank other
    have count := (length_le_joined (part :: parts)).1
    rw [enclosed?, unclosed]
    exact parts?_joined each (by simp) mark (by omega)

end Parts

section Written

open Json (compact write writeItems writeFields)

variable {rest : List Char}

def Word (j : Json) : Prop :=
  ∃ w, (∀ depth, (write compact depth j).toList = w) ∧ w ≠ [] ∧ (∀ c ∈ w, isBare c = true) ∧
    bare? w = some j.datum

theorem word_boolean (b : Bool) : Word (.boolean b) := by
  cases b with
  | true => exact ⟨"true".toList, fun depth => by rw [write]; rfl, by decide, List.all_eq_true.1 (by decide), rfl⟩
  | false => exact ⟨"false".toList, fun depth => by rw [write]; rfl, by decide, List.all_eq_true.1 (by decide), rfl⟩

theorem word_numeral {j : Json} {written : String} (numeral : Json.isNumeral written.toList = true)
    (wrote : ∀ depth, write compact depth j = written) (stands : j.datum = .number written) : Word j := by
  refine ⟨written.toList, fun depth => by rw [wrote], ?_, isBare_of_isNumeral numeral, ?_⟩
  · intro none
    rw [none] at numeral
    exact absurd numeral (by decide)
  · rw [bare?, if_pos numeral, stands, String.ofList_toList]

theorem word_natural (k : Nat) : Word (.natural k) := by
  refine word_numeral ?_ (fun depth => by rw [write]) (by rw [Json.datum])
  have whole := Json.isNumeral_signed false (Json.isWhole_toDigits k) (f := []) (x := []) rfl rfl
  simpa [Decimal.signText] using whole

theorem word_real (x : Binary64) : Word (.real x) := by
  cases x with
  | finite negative m e =>
    exact word_numeral (Json.isNumeral_document negative m e) (fun depth => by rw [write]; rfl)
      (by rw [Json.datum])
  | nan | infinite =>
    exact ⟨"null".toList, fun depth => by rw [write]; rfl, by decide, List.all_eq_true.1 (by decide), rfl⟩

theorem write_start (depth : Nat) (j : Json) : StartsApart ']' (write compact depth j) := by
  have start (word : Word j) : StartsApart ']' (write compact depth j) := by
    obtain ⟨w, written, some, bare, -⟩ := word
    obtain ⟨c, cs, rfl⟩ := List.exists_cons_of_ne_nil some
    obtain ⟨blank, -, -, bracket, -⟩ := bare_start (bare c List.mem_cons_self)
    exact ⟨c, cs, written depth, blank, bracket⟩
  cases j with
  | boolean b => exact start (word_boolean b)
  | natural k => exact start (word_natural k)
  | real x => exact start (word_real x)
  | text s => exact ⟨'"', _, by rw [write, toList_quoted], by decide, by decide⟩
  | list items => exact ⟨'[', _, by rw [write]; exact toList_enclosed _ _ _, by decide, by decide⟩
  | record fields => exact ⟨'\x7b', _, by rw [write]; exact toList_enclosed _ _ _, by decide, by decide⟩

def ReadBack (j : Json) : Prop :=
  ∀ (depth n : Nat) (rest : List Char), (write compact depth j).toList.length ≤ n → Ends rest →
    value? n ((write compact depth j).toList ++ rest) = some (j.datum, rest)

theorem readBack_word {j : Json} (word : Word j) : ReadBack j := by
  intro depth n rest enough ends
  obtain ⟨w, written, some, bare, read⟩ := word
  rw [written] at enough ⊢
  exact value?_bare read some bare ends enough

theorem readBack_text (s : String) : ReadBack (.text s) := by
  intro depth n rest enough ends
  rw [write, toList_quoted] at enough ⊢
  obtain ⟨n, rfl⟩ := exists_succ enough
  rw [List.cons_append, List.append_assoc, value?, if_neg (by decide), if_pos rfl, List.singleton_append,
    chars?_quoted]
  simp [Json.datum]

theorem ends_mark {c : Char} (h : isBare c = false) : Ends (c :: rest) := by
  simpa [Ends] using h

theorem reads_items {items : List Json} (back : ∀ item ∈ items, ReadBack item) (depth n : Nat)
    (short : ∀ part ∈ writeItems compact depth items, part.toList.length ≤ n) :
    List.Forall₂ (Reads (value? n)) (writeItems compact depth items) (Json.itemData items) := by
  induction items with
  | nil => exact .nil
  | cons item items ih =>
    rw [writeItems] at short ⊢
    obtain ⟨first, back⟩ := List.forall_mem_cons.1 back
    obtain ⟨shortFirst, short⟩ := List.forall_mem_cons.1 short
    exact .cons (fun c rest mark => first depth n _ shortFirst (ends_mark mark)) (ih back short)

theorem starts_items (depth : Nat) (items : List Json) :
    ∀ part ∈ writeItems compact depth items, StartsApart ']' part := by
  induction items with
  | nil => simp [writeItems]
  | cons item items ih => exact List.forall_mem_cons.2 ⟨write_start depth item, ih⟩

theorem readBack_list {items : List Json} (back : ∀ item ∈ items, ReadBack item) : ReadBack (.list items) := by
  intro depth n rest enough ends
  have written : (write compact depth (.list items)).toList =
      '[' :: (joined (writeItems compact (depth + 1) items) ++ [']']) := by
    rw [write]
    exact toList_enclosed _ _ _
  rw [written] at enough ⊢
  obtain ⟨n, rfl, room, short⟩ := exists_room enough
  have each := reads_items back (depth + 1) n short
  rw [List.cons_append, List.append_assoc, List.singleton_append, value?, if_neg (by decide),
    if_neg (by decide), if_pos rfl, enclosed?_joined each (starts_items _ _) (by decide) room, Json.datum]
  rfl

theorem field_named (depth : Nat) (name : String) (value : Json) :
    (Json.quoted name ++ compact.afterName ++ write compact depth value).toList =
      '"' :: (name.toList.flatMap (fun c => (Json.escape c).toList) ++
        '"' :: ':' :: (write compact depth value).toList) := by
  simp [String.toList_append, toList_quoted, compact]

theorem reads_fields {fields : List (String × Json)} (back : ∀ field ∈ fields, ReadBack field.2) (depth n : Nat)
    (short : ∀ part ∈ writeFields compact depth fields, part.toList.length ≤ n) :
    List.Forall₂ (Reads (named? (value? n))) (writeFields compact depth fields) (Json.fieldData fields) := by
  induction fields with
  | nil => exact .nil
  | cons field fields ih =>
    obtain ⟨name, value⟩ := field
    rw [writeFields] at short ⊢
    obtain ⟨first, back⟩ := List.forall_mem_cons.1 back
    obtain ⟨shortFirst, short⟩ := List.forall_mem_cons.1 short
    refine .cons ?_ (ih back short)
    intro c rest mark
    have room : (write compact depth value).toList.length ≤ n := by
      simp only [String.toList_append, List.length_append] at shortFirst
      omega
    rw [field_named, List.cons_append, List.append_assoc, named?, after?_self (by decide)]
    simp only [Option.bind_eq_bind, Option.bind_some, List.cons_append, chars?_quoted]
    rw [after?_self (by decide), Option.bind_some, first depth n _ room (ends_mark mark)]
    simp

theorem starts_fields (depth : Nat) (fields : List (String × Json)) :
    ∀ part ∈ writeFields compact depth fields, StartsApart '\x7d' part := by
  induction fields with
  | nil => simp [writeFields]
  | cons field fields ih =>
    exact List.forall_mem_cons.2 ⟨⟨'"', _, field_named depth field.1 field.2, by decide, by decide⟩, ih⟩

theorem readBack_record {fields : List (String × Json)} (back : ∀ field ∈ fields, ReadBack field.2) :
    ReadBack (.record fields) := by
  intro depth n rest enough ends
  have written : (write compact depth (.record fields)).toList =
      '\x7b' :: (joined (writeFields compact (depth + 1) fields) ++ ['\x7d']) := by
    rw [write]
    exact toList_enclosed _ _ _
  rw [written] at enough ⊢
  obtain ⟨n, rfl, room, short⟩ := exists_room enough
  have each := reads_fields back (depth + 1) n short
  rw [List.cons_append, List.append_assoc, List.singleton_append, value?, if_neg (by decide),
    if_neg (by decide), if_neg (by decide), if_pos rfl, enclosed?_joined each (starts_fields _ _) (by decide) room,
    Json.datum]
  rfl

theorem readBack : ∀ j : Json, ReadBack j
  | .boolean b => readBack_word (word_boolean b)
  | .natural k => readBack_word (word_natural k)
  | .real x => readBack_word (word_real x)
  | .text s => readBack_text s
  | .list items => readBack_list fun item _ => readBack item
  | .record fields => readBack_record fun field _ => readBack field.2
termination_by j => sizeOf j
decreasing_by
  · have := List.sizeOf_lt_of_mem ‹_›
    simp only [Json.list.sizeOf_spec]
    omega
  · have := List.sizeOf_lt_of_mem ‹_›
    have : sizeOf field.2 < sizeOf field := by
      obtain ⟨name, value⟩ := field
      rw [Prod.mk.sizeOf_spec]
      change sizeOf value < _
      omega
    simp only [Json.record.sizeOf_spec]
    omega

theorem read?_write (j : Json) : read? (write compact 0 j) = some j.datum := by
  have back := readBack j 0 _ [] le_rfl (by simp [Ends])
  rw [List.append_nil] at back
  simp only [read?, ← String.length_toList, back]
  rfl

end Written

section Kinds

open Json (itemData fieldData)

theorem natural?_datum (k : Nat) : (Json.natural k).datum.natural? = some k := by
  have digits : (toString k).toList = Nat.toDigits 10 k := by simp
  rw [Json.datum, natural?, digits, if_pos (Json.isDigits_toDigits k), Nat.ofDigitChars_ten_toDigits]

theorem texts?_datum (texts : List String) : (Json.list (texts.map .text)).datum.texts? = some texts := by
  rw [Json.datum, texts?]
  induction texts with
  | nil => rfl
  | cons s texts ih =>
    rw [List.map_cons, itemData, List.mapM_cons, ih, Json.datum]
    rfl

theorem fieldData_append (fields more : List (String × Json)) :
    fieldData (fields ++ more) = fieldData fields ++ fieldData more := by
  induction fields with
  | nil => rw [fieldData, List.nil_append, List.nil_append]
  | cons field fields ih => rw [List.cons_append, fieldData, ih, fieldData, List.cons_append]

theorem names_fieldData (fields : List (String × Json)) :
    (fieldData fields).map Prod.fst = fields.map Prod.fst := by
  induction fields with
  | nil => rw [fieldData, List.map_nil, List.map_nil]
  | cons field fields ih => rw [fieldData, List.map_cons, ih, List.map_cons]

end Kinds

end Datum

end GameDay.Text

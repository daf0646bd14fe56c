import GameDay.Proofs.Decode.Records
import GameDay.Proofs.Disruption.Errors
import GameDay.Proofs.Disruption.Injection
import GameDay.Proofs.Text.Reading
import Mathlib.Algebra.Order.Field.Power
import Mathlib.Data.Rat.Lemmas
import Mathlib.Tactic.Positivity

namespace GameDay

def Binary64.value? : Binary64 → Option ℚ
  | .finite negative m e => some ((if negative then -1 else 1) * m * 2 ^ e)
  | _ => none

namespace Binary64

theorem scale_value (m : Nat) (e : Int) :
    0 < (scale m e).2 ∧ ((scale m e).1 : ℚ) = m * 2 ^ e * (scale m e).2 := by
  unfold scale
  split
  · rename_i nonneg
    lift e to Nat using nonneg
    simp
  · rename_i negative
    obtain ⟨k, rfl⟩ : ∃ k : Nat, e = -k := ⟨(-e).toNat, by omega⟩
    refine ⟨by positivity, ?_⟩
    simp

theorem exists_value {x : Binary64} (h : x.inUnitInterval = true) :
    ∃ q, x.value? = some q ∧ 0 ≤ q ∧ q ≤ 1 := by
  cases x with
  | nan | infinite => cases h
  | finite negative m e =>
    obtain ⟨positive, value⟩ := scale_value m e
    refine ⟨_, rfl, ?_⟩
    unfold inUnitInterval at h
    cases negative with
    | true =>
      have zero : (scale m e).1 = 0 := by simpa using h
      rw [zero, Nat.cast_zero, eq_comm, mul_eq_zero] at value
      have nothing : (m : ℚ) * 2 ^ e = 0 := value.resolve_right (by exact_mod_cast positive.ne')
      simp [nothing]
    | false =>
      have least : ((scale m e).1 : ℚ) ≤ (scale m e).2 := by
        have : (scale m e).1 ≤ (scale m e).2 := by simpa using h
        exact_mod_cast this
      have below : (m : ℚ) * 2 ^ e ≤ 1 := by
        rw [value] at least
        exact (mul_le_iff_le_one_left (by exact_mod_cast positive)).1 least
      refine ⟨?_, ?_⟩
      · simp only [Bool.false_eq_true, if_false, one_mul]
        positivity
      · simpa using below

theorem finite_of_share {x : Binary64} (h : x.inUnitInterval = true) : x.isFinite = true := by
  cases x with
  | finite => rfl
  | nan | infinite => cases h

end Binary64

namespace Disruption

open Yaml (Value)
open Decode.OfValue (entriesOf name? under)
open Text (Datum Json)

structure FailureDocument where
  isEnabled : Bool
  failureMode : String
  rate : String
  minLatency : Option Nat
  maxLatency : Option Nat
  exceptionMsg : Option String
  statusCode : Option Nat
  diskSpace : Option Nat
  denylist : Option (List String)
deriving DecidableEq

namespace FailureDocument

def fieldNames : List String :=
  ["isEnabled", "failureMode", "rate", "minLatency", "maxLatency", "exceptionMsg", "statusCode", "diskSpace",
    "denylist"]

def required {α : Type} (kind? : Datum → Option α) (name : String) (fields : List (String × Datum)) : Option α :=
  (fields.lookup name).bind kind?

def optional {α : Type} (kind? : Datum → Option α) (name : String) (fields : List (String × Datum)) :
    Option (Option α) :=
  match fields.lookup name with
  | none => some none
  | some d => (kind? d).map some

def ofDatum? : Datum → Option FailureDocument
  | .record fields =>
    let names := fields.map Prod.fst
    if names.Nodup ∧ ∀ name ∈ names, name ∈ fieldNames then do
      return {
        isEnabled := ← required Datum.boolean? "isEnabled" fields
        failureMode := ← required Datum.text? "failureMode" fields
        rate := ← required Datum.number? "rate" fields
        minLatency := ← optional Datum.natural? "minLatency" fields
        maxLatency := ← optional Datum.natural? "maxLatency" fields
        exceptionMsg := ← optional Datum.text? "exceptionMsg" fields
        statusCode := ← optional Datum.natural? "statusCode" fields
        diskSpace := ← optional Datum.natural? "diskSpace" fields
        denylist := ← optional Datum.texts? "denylist" fields }
    else none
  | _ => none

def read? (text : String) : Option FailureDocument := (Datum.read? text).bind ofDatum?

structure Fits (d : FailureDocument) : Prop where
  latency : d.failureMode = "latency" →
    ∃ least most, d.minLatency = some least ∧ d.maxLatency = some most ∧ least ≤ most
  statusCode : d.failureMode = "statuscode" → ∃ code, d.statusCode = some code ∧ 100 ≤ code ∧ code ≤ 599
  diskSpace : d.failureMode = "diskspace" → ∃ space, d.diskSpace = some space ∧ 0 < space
  denylist : d.failureMode = "denylist" → ∃ patterns, d.denylist = some patterns ∧ patterns ≠ []

end FailureDocument

namespace FailureSettings

def told (s : FailureSettings) : FailureDocument where
  isEnabled := true
  failureMode := s.mode.name
  rate := Json.realText s.rate
  minLatency := s.minLatency
  maxLatency := s.maxLatency
  exceptionMsg := s.exceptionMessage
  statusCode := s.statusCode
  diskSpace := s.diskSpace
  denylist := if s.denylist = [] then none else some s.denylist

/-- Parameters state an optional setting by one entry. They leave it out or say null if they give none. -/
def Stated {α : Type} (params : Value) (name : String) (form : α → Value) : Option α → Prop
  | none => under params name = [] ∨ under params name = [.null]
  | some a => ∃ v, under params name = [v] ∧ v.untagged = form a

def natural (n : Nat) : Value := .number (.integer n)

/-- The settings are those that the parameters state, which say nothing else. -/
structure StatedBy (s : FailureSettings) (params : Value) : Prop where
  known : ∀ entry ∈ entriesOf params, ∃ name ∈ ["failure_mode", "rate", "min_latency", "max_latency",
    "exception_msg", "status_code", "disk_space", "denylist"], name? entry.1 = some name
  mode : ∃ v, under params "failure_mode" = [v] ∧ (v = .text s.mode.name ∨ v = .tagged s.mode.name .null)
  rate : (under params "rate" = [] ∧ s.rate = fullRate) ∨
    ∃ v, under params "rate" = [v] ∧ (v.untagged = .number (.real s.rate) ∨
      ∃ n, v.untagged = .number (.integer n) ∧ s.rate = .ofInt n)
  minLatency : Stated params "min_latency" natural s.minLatency
  maxLatency : Stated params "max_latency" natural s.maxLatency
  exceptionMessage : Stated params "exception_msg" .text s.exceptionMessage
  statusCode : Stated params "status_code" natural s.statusCode
  diskSpace : Stated params "disk_space" natural s.diskSpace
  denylist : (under params "denylist" = [] ∧ s.denylist = []) ∨
    ∃ v, under params "denylist" = [v] ∧ ((v.untagged = .null ∧ s.denylist = []) ∨
      ∃ items, v.untagged = .sequence items ∧ items.map Value.untagged = s.denylist.map .text)

section Accepted

variable {params : Value} {s : FailureSettings}

theorem ofParams_ok (accepted : ofParams params = .ok s) :
    (reader params).Gives s ∧ s.problem? = none := by
  obtain ⟨why, refused⟩ | ⟨settings, read, fine, same⟩ := ofParams_cases params
  · cases accepted.symm.trans refused
  · obtain rfl : s = settings := Except.ok.inj (accepted.symm.trans same)
    exact ⟨Decode.gives_of_read read, fine⟩

theorem fine_parts (fine : s.problem? = none) : s.rate.inUnitInterval = true ∧ s.modeProblem? = none := by
  unfold problem? at fine
  split at fine
  · rename_i share
    exact ⟨share, fine⟩
  · cases fine

theorem find?_name (m : FailureMode) :
    (FailureMode.all.find? (·.name = m.name)).getD .latency = m := by
  cases m <;> decide

theorem mode_of_gives {v : Value} {m : FailureMode} (h : (FailureMode.reader v).Gives m) :
    v = .text m.name ∨ v = .tagged m.name .null := by
  obtain ⟨name, read, rest⟩ := h.bind
  obtain ⟨known, form⟩ := Decode.gives_variant read
  obtain ⟨named, -, rfl⟩ := List.mem_map.1 known
  obtain rfl : m = named := rest.pure_eq.trans (find?_name named)
  exact form

theorem stated_of_maybe {α : Type} {name : String} {reader : Decode.Reader Value α} {form : α → Value}
    {o : Option α} (read : ∀ {v a}, (reader v).Gives a → v.untagged = form a)
    (h : (maybe name reader).Give params o) : Stated params name form o := by
  obtain ⟨none, rfl⟩ | ⟨v, only, given⟩ := h.optional
  · exact .inl none
  · obtain ⟨rfl, rfl⟩ | ⟨a, rfl, some⟩ := Decode.gives_option given
    · exact .inr only
    · exact ⟨v, only, read some⟩

theorem patterns_of_gives {v : Value} {patterns : List String}
    (h : (Decode.listOf Decode.text v).Gives patterns) :
    (v.untagged = .null ∧ patterns = []) ∨
      ∃ items, v.untagged = .sequence items ∧ items.map Value.untagged = patterns.map .text := by
  obtain null | ⟨items, sequence, each⟩ := Decode.gives_listOf h
  · exact .inl null
  refine .inr ⟨items, sequence, ?_⟩
  clear h sequence
  induction each with
  | nil => rfl
  | cons first each ih => rw [List.map_cons, List.map_cons, ih, Decode.untagged_of_text first]

theorem statedBy_of_reader (h : (reader params).Gives s) : s.StatedBy params := by
  obtain ⟨known, fields⟩ := Decode.strictRecord_ok h
  obtain ⟨_, denylist, toSpace, denylistGiven, rfl⟩ := fields.seq
  obtain ⟨_, space, toCode, spaceGiven, rfl⟩ := toSpace.seq
  obtain ⟨_, code, toMessage, codeGiven, rfl⟩ := toCode.seq
  obtain ⟨_, message, toMost, messageGiven, rfl⟩ := toMessage.seq
  obtain ⟨_, most, toLeast, mostGiven, rfl⟩ := toMost.seq
  obtain ⟨_, least, toRate, leastGiven, rfl⟩ := toLeast.seq
  obtain ⟨_, rate, toMode, rateGiven, rfl⟩ := toRate.seq
  obtain ⟨mode, modeGiven, rfl⟩ := toMode.map
  exact {
    known := known
    mode := modeGiven.required.imp fun v given => given.imp_right mode_of_gives
    rate := rateGiven.optional.imp_right fun rate => rate.imp fun v given => given.imp_right Decode.gives_real
    minLatency := stated_of_maybe Decode.untagged_of_natural leastGiven
    maxLatency := stated_of_maybe Decode.untagged_of_natural mostGiven
    exceptionMessage := stated_of_maybe Decode.untagged_of_text messageGiven
    statusCode := stated_of_maybe Decode.untagged_of_natural codeGiven
    diskSpace := stated_of_maybe Decode.untagged_of_natural spaceGiven
    denylist := denylistGiven.optional.imp_right fun list => list.imp fun v given =>
      given.imp_right patterns_of_gives }

theorem mode_eq {a b : FailureMode} (h : a.name = b.name) : a = b := by
  rw [← find?_name a, h, find?_name b]

theorem fits_told (fine : s.modeProblem? = none) : s.told.Fits where
  latency named := by
    have mode : s.mode = .latency := mode_eq named
    simp only [modeProblem?, mode] at fine
    split at fine
    · rename_i least most leastGiven mostGiven
      split at fine
      · rename_i ordered
        exact ⟨least, most, leastGiven, mostGiven, ordered⟩
      · cases fine
    · cases fine
  statusCode named := by
    have mode : s.mode = .statusCode := mode_eq named
    simp only [modeProblem?, mode] at fine
    split at fine
    · rename_i code given
      split at fine
      · rename_i range
        exact ⟨code, given, range⟩
      · cases fine
    · cases fine
  diskSpace named := by
    have mode : s.mode = .diskSpace := mode_eq named
    simp only [modeProblem?, mode] at fine
    split at fine
    · rename_i space given
      split at fine
      · rename_i positive
        exact ⟨space, given, positive⟩
      · cases fine
    · cases fine
  denylist named := by
    have mode : s.mode = .denylist := mode_eq named
    simp only [modeProblem?, mode] at fine
    split at fine
    · cases fine
    · rename_i nonempty
      exact ⟨s.denylist, if_neg nonempty, nonempty⟩

theorem lookup_given {α : Type} (name key : String) (form : α → Json) (o : Option α) :
    (Json.fieldData (given name form o)).lookup key =
      if key = name then o.map fun a => (form a).datum else none := by
  cases o with
  | none => simp [given, Json.fieldData]
  | some a =>
    by_cases same : key = name
    · simp [given, Json.fieldData, same]
    · simp [given, Json.fieldData, List.lookup_cons, same, beq_false_of_ne same]

theorem names_given {α : Type} (name : String) (form : α → Json) (o : Option α) :
    ((given name form o).map Prod.fst).Sublist [name] := by
  cases o with
  | none => exact List.nil_sublist _
  | some a => exact List.Sublist.refl _

theorem toJson_eq (s : FailureSettings) : s.toJson = .record (
    [("isEnabled", .boolean true), ("failureMode", .text s.mode.name), ("rate", .real s.rate)] ++
    given "minLatency" .natural s.minLatency ++ given "maxLatency" .natural s.maxLatency ++
    given "exceptionMsg" .text s.exceptionMessage ++ given "statusCode" .natural s.statusCode ++
    given "diskSpace" .natural s.diskSpace ++
    given "denylist" (fun patterns => .list (patterns.map .text)) s.told.denylist) := by
  unfold toJson told
  by_cases empty : s.denylist = []
  · simp [empty, given]
  · simp [empty, given]

theorem names_toJson (s : FailureSettings) {fields : List (String × Json)} (h : s.toJson = .record fields) :
    (fields.map Prod.fst).Sublist FailureDocument.fieldNames := by
  rw [toJson_eq] at h
  cases h
  simp only [List.map_append]
  exact ((((((List.Sublist.refl _).append (names_given ..)).append (names_given ..)).append
    (names_given ..)).append (names_given ..)).append (names_given ..)).append (names_given ..)

theorem lookup_toJson (s : FailureSettings) {fields : List (String × Json)} (h : s.toJson = .record fields)
    (key : String) : (Json.fieldData fields).lookup key =
      (([("isEnabled", .boolean true), ("failureMode", .text s.mode.name), ("rate", (Json.real s.rate).datum)] :
        List (String × Datum)).lookup key).or
      ((if key = "minLatency" then s.minLatency.map fun n => (Json.natural n).datum else none).or
      ((if key = "maxLatency" then s.maxLatency.map fun n => (Json.natural n).datum else none).or
      ((if key = "exceptionMsg" then s.exceptionMessage.map fun m => (Json.text m).datum else none).or
      ((if key = "statusCode" then s.statusCode.map fun n => (Json.natural n).datum else none).or
      ((if key = "diskSpace" then s.diskSpace.map fun n => (Json.natural n).datum else none).or
      (if key = "denylist" then s.told.denylist.map fun l => (Json.list (l.map .text)).datum else none)))))) := by
  rw [toJson_eq] at h
  cases h
  simp only [Datum.fieldData_append, List.lookup_append, lookup_given, Option.or_assoc]
  rfl

theorem optional_given {α : Type} {kind? : Datum → Option α} {name : String} {form : α → Json} {o : Option α}
    {fields : List (String × Datum)} (kind : ∀ a, kind? (form a).datum = some a)
    (found : fields.lookup name = o.map fun a => (form a).datum) :
    FailureDocument.optional kind? name fields = some o := by
  cases o with
  | none => rw [FailureDocument.optional, found]; rfl
  | some a =>
    rw [FailureDocument.optional, found]
    simp [kind]

theorem read?_document (finite : s.rate.isFinite = true) : FailureDocument.read? s.document = some s.told := by
  rw [FailureDocument.read?, document, Datum.read?_write, Option.bind_some]
  obtain ⟨fields, record⟩ : ∃ fields, s.toJson = .record fields := ⟨_, rfl⟩
  have names := names_toJson s record
  rw [← Datum.names_fieldData] at names
  rw [record, Json.datum, FailureDocument.ofDatum?]
  have known : ((Json.fieldData fields).map Prod.fst).Nodup ∧
      ∀ name ∈ (Json.fieldData fields).map Prod.fst, name ∈ FailureDocument.fieldNames :=
    ⟨names.nodup (by decide), fun name mem => names.subset mem⟩
  have found := lookup_toJson s record
  generalize Json.fieldData fields = data at found known
  have isEnabled : FailureDocument.required Datum.boolean? "isEnabled" data = some true := by
    rw [FailureDocument.required, found]
    rfl
  have mode : FailureDocument.required Datum.text? "failureMode" data = some s.mode.name := by
    rw [FailureDocument.required, found]
    rfl
  have rate : FailureDocument.required Datum.number? "rate" data = some (Json.realText s.rate) := by
    obtain ⟨negative, m, e, finite⟩ : ∃ negative m e, s.rate = .finite negative m e := by
      cases rate : s.rate with
      | finite negative m e => exact ⟨negative, m, e, rfl⟩
      | nan | infinite =>
        rw [rate] at finite
        cases finite
    rw [FailureDocument.required, found, finite, Json.datum]
    rfl
  have least : FailureDocument.optional Datum.natural? "minLatency" data = some s.minLatency :=
    optional_given Datum.natural?_datum (by simp [found, List.lookup_cons])
  have most : FailureDocument.optional Datum.natural? "maxLatency" data = some s.maxLatency :=
    optional_given Datum.natural?_datum (by simp [found, List.lookup_cons])
  have text (m : String) : (Json.text m).datum.text? = some m := by
    rw [Json.datum]
    rfl
  have message : FailureDocument.optional Datum.text? "exceptionMsg" data = some s.exceptionMessage :=
    optional_given text (by simp [found, List.lookup_cons])
  have code : FailureDocument.optional Datum.natural? "statusCode" data = some s.statusCode :=
    optional_given Datum.natural?_datum (by simp [found, List.lookup_cons])
  have space : FailureDocument.optional Datum.natural? "diskSpace" data = some s.diskSpace :=
    optional_given Datum.natural?_datum (by simp [found, List.lookup_cons])
  have denylist : FailureDocument.optional Datum.texts? "denylist" data = some s.told.denylist :=
    optional_given Datum.texts?_datum (by simp [found, List.lookup_cons])
  rw [if_pos known]
  simp only [isEnabled, mode, rate, least, most, message, code, space, denylist]
  rfl

end Accepted

end FailureSettings

/-- The document that a function finds after an injection says what the parameters of the injection say, and no
more. It has what its mode needs, and the rate is a share. -/
theorem document_faithful {params : Value} {s : FailureSettings}
    (accepted : FailureSettings.ofParams params = .ok s) :
    s.StatedBy params ∧ FailureDocument.read? s.document = some s.told ∧ s.told.Fits ∧
      (∃ q, s.rate.value? = some q ∧ 0 ≤ q ∧ q ≤ 1) ∧
      ∀ {W : Type} {cloud : Cloud W} (store : Cloud.ParameterStore cloud) {ctx : Context Connection}
        {before after : Cloud.Scene W} {h : Handle}, ctx.params = params →
        cloud.runAction before (inject ctx) = (.ok h, after) →
          ∃ place, Cloud.failureParameter? ctx.target = some place ∧
            store.value after.world place = some s.document := by
  obtain ⟨read, fine⟩ := FailureSettings.ofParams_ok accepted
  obtain ⟨share, complete⟩ := FailureSettings.fine_parts fine
  refine ⟨FailureSettings.statedBy_of_reader read, FailureSettings.read?_document (Binary64.finite_of_share share),
    FailureSettings.fits_told complete, Binary64.exists_value share, ?_⟩
  rintro W cloud store ctx before after h rfl ran
  obtain ⟨place, aimed, -, settings, same, put⟩ := inject_ok store ran
  obtain rfl : s = settings := Except.ok.inj (accepted.symm.trans same)
  exact ⟨place, aimed, by rw [put, Function.update_self]⟩

def outage : Value :=
  .record [("failure_mode", .tagged "denylist" .null), ("rate", .number (.real (.finite false (2 ^ 52) (-53)))),
    ("min_latency", .null), ("exception_msg", .text "down \"again\"\n\u0001"),
    ("status_code", .number (.integer 503)), ("denylist", .sequence [.text "s3.*", .text "a\\b"])]

def outageSettings : FailureSettings where
  mode := .denylist
  rate := .finite false (2 ^ 52) (-53)
  minLatency := none
  maxLatency := none
  exceptionMessage := some "down \"again\"\n\u0001"
  statusCode := some 503
  diskSpace := none
  denylist := ["s3.*", "a\\b"]

theorem outage_faithful : FailureSettings.ofParams outage = .ok outageSettings ∧
    FailureDocument.read? outageSettings.document = some {
      isEnabled := true
      failureMode := "denylist"
      rate := "0.5"
      minLatency := none
      maxLatency := none
      exceptionMsg := some "down \"again\"\n\u0001"
      statusCode := some 503
      diskSpace := none
      denylist := some ["s3.*", "a\\b"] } := by
  have accepted : FailureSettings.ofParams outage = .ok outageSettings := rfl
  refine ⟨accepted, ?_⟩
  obtain ⟨-, read, -⟩ := document_faithful accepted
  rw [read]
  rfl

end Disruption

end GameDay

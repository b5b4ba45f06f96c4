import AiOs.Lib.Json
import Mathlib.Data.List.Forall2
import Mathlib.Tactic.Common

/-! How derived decoders read a JSON document. A record is an object or the array of its
values in order; a unit variant is its name, or an object with that name alone; an internally
tagged variant carries its name in one field. Decoders are partial functions, without the text
of an error. -/
namespace Serde

variable {α β : Type}

def text : Json → Option String
  | .string value => some value
  | _ => none

def unsigned (bound : Nat) : Json → Option Nat
  | .number value => if value < bound then some value else none
  | _ => none

def array (item : Json → Option α) : Json → Option (List α)
  | .array items => items.mapM item
  | _ => none

/-- The unit variants of an enumeration. `unit` says what may stand behind the name in the
object form. -/
def variant (unit : Json → Bool) (variants : List (String × α)) : Json → Option α
  | .string name => variants.lookup name
  | .object [(name, content)] => if unit content then variants.lookup name else none
  | _ => none

/-- What a reader of text takes for a unit. -/
def isNull : Json → Bool
  | .null => true
  | _ => false

/-- What a reader of buffered content takes for a unit. -/
def isUnit : Json → Bool
  | .null => true
  | .object [] => true
  | _ => false

/-- A record that denies unknown fields: no field but the named ones, and none twice. -/
def isRecord (names : List String) : Json → Bool
  | .array items => decide (items.length ≤ names.length)
  | .object fields =>
    fields.all (fun field => names.contains field.1) && decide (fields.map Prod.fst).Nodup
  | _ => false

def entry (names : List String) (name : String) : Json → Option Json
  | .array items => items[names.idxOf name]?
  | .object fields => fields.lookup name
  | _ => none

def required (decode : Json → Option α) (found : Option Json) : Option α := found.bind decode

def defaulted (decode : Json → Option α) (value : α) : Option Json → Option α
  | none => some value
  | some json => decode json

/-- The name of an internally tagged variant, and the rest of the document. -/
def untag (tag : String) : Json → Option (String × Json)
  | .array (.string name :: rest) => some (name, .array rest)
  | .object fields =>
    match fields.filter (fun field => field.1 == tag) with
    | [(_, .string name)] => some (name, .object (fields.filter (fun field => field.1 != tag)))
    | _ => none
  | _ => none

/-- `untag` out of a buffer, where the tag may also be the place of the name among the variants. -/
def untagBuffered (tag : String) (names : List String) : Json → Option (String × Json)
  | .array (.number place :: rest) => names[place]?.map fun name => (name, .array rest)
  | .object fields =>
    match fields.filter (fun field => field.1 == tag) with
    | [(_, .number place)] =>
      names[place]?.map fun name => (name, .object (fields.filter (fun field => field.1 != tag)))
    | _ => untag tag (.object fields)
  | json => untag tag json

/-- The content of a unit variant with a tag: an array must be at its end, and the fields of an
object are skipped, also where unknown fields are denied. -/
def isSkipped : Json → Bool
  | .array items => items.isEmpty
  | .object _ => true
  | _ => false

/-! A document against the encoding of what it was read as. -/

/-- Every object of the document has only fields that the object in its place in the encoding
has. An array may stand for a record, and an object for the name of a unit variant. -/
inductive Within : Json → Json → Prop where
  | null (whole : Json) : Within .null whole
  | bool (value : Bool) (whole : Json) : Within (.bool value) whole
  | number (value : Nat) (whole : Json) : Within (.number value) whole
  | decimal (value : String) (whole : Json) : Within (.decimal value) whole
  | string (value : String) (whole : Json) : Within (.string value) whole
  | array {items wholes : List Json} (length : items.length = wholes.length)
      (each : ∀ pair ∈ items.zip wholes, Within pair.1 pair.2) :
      Within (.array items) (.array wholes)
  | object {fields wholes : List (String × Json)}
      (keys : ∀ field ∈ fields, field.1 ∈ wholes.map Prod.fst)
      (each : ∀ field ∈ fields, ∀ whole ∈ wholes, field.1 = whole.1 → Within field.2 whole.2) :
      Within (.object fields) (.object wholes)
  | positional {items : List Json} {wholes : List (String × Json)}
      (length : items.length ≤ wholes.length)
      (each : ∀ pair ∈ items.zip wholes, Within pair.1 pair.2.2) :
      Within (.array items) (.object wholes)
  | named (name : String) {content : Json} (unit : isUnit content = true) :
      Within (.object [(name, content)]) (.string name)

/-- A decoder whose accepted documents have nothing that the encoding has not. -/
def Strict (decode : Json → Option α) (encode : α → Json) : Prop :=
  ∀ json value, decode json = some value → Within json (encode value)

theorem strict_text : Strict text Json.string := by
  intro json value read
  cases json with
  | string found => exact .string found _
  | _ => cases read

theorem strict_unsigned (bound : Nat) (convert : Nat → α) (encode : α → Json) :
    Strict (fun json => (unsigned bound json).map convert) encode := by
  intro json value read
  cases json with
  | number found => exact .number found _
  | _ => cases read

theorem mapM_forall₂ {f : α → Option β} {xs : List α} {ys : List β} (mapped : xs.mapM f = some ys) :
    List.Forall₂ (fun x y => f x = some y) xs ys := by
  induction xs generalizing ys with
  | nil =>
    cases mapped
    exact .nil
  | cons x rest ih =>
    rw [List.mapM_cons] at mapped
    cases first : f x with
    | none => simp [first] at mapped
    | some y =>
      cases others : rest.mapM f with
      | none => simp [first, others] at mapped
      | some tail =>
        simp only [first, others, Option.pure_def, Option.bind_eq_bind, Option.bind_some,
          Option.some.injEq] at mapped
        rw [← mapped]
        exact .cons first (ih others)

theorem strict_array {item : Json → Option α} {encode : α → Json} (strict : Strict item encode) :
    Strict (array item) (fun values => .array (values.map encode)) := by
  intro json values read
  cases json with
  | array items =>
    have each := mapM_forall₂ read
    refine .array ?_ ?_
    · rw [List.length_map]
      exact each.length_eq
    · rintro ⟨part, whole⟩ member
      rw [List.zip_map_right, List.mem_map] at member
      obtain ⟨⟨json, value⟩, paired, same⟩ := member
      cases same
      exact strict json value (List.forall₂_zip each paired)
  | _ => cases read

@[simp] theorem required_some (decode : Json → Option α) (json : Json) :
    required decode (some json) = decode json := rfl

@[simp] theorem defaulted_some (decode : Json → Option α) (value : α) (json : Json) :
    defaulted decode value (some json) = decode json := rfl

@[simp] theorem text_string (value : String) : text (.string value) = some value := rfl

theorem unsigned_number {bound value : Nat} (small : value < bound) :
    unsigned bound (.number value) = some value := if_pos small

theorem array_map {item : Json → Option α} {encode : α → Json} {values : List α}
    (inverse : ∀ value ∈ values, item (encode value) = some value) :
    array item (.array (values.map encode)) = some values := by
  induction values with
  | nil => rfl
  | cons value rest ih =>
    have others := ih (fun other member => inverse other (List.mem_cons_of_mem _ member))
    simp only [array] at others ⊢
    rw [List.map_cons, List.mapM_cons, inverse value List.mem_cons_self, others]
    rfl

theorem strict_variant {unit : Json → Bool} {variants : List (String × α)} {name : α → String}
    (units : ∀ json, unit json = true → isUnit json = true)
    (names : ∀ pair ∈ variants, name pair.2 = pair.1) :
    Strict (variant unit variants) (fun value => .string (name value)) := by
  have own : ∀ text value, variants.lookup text = some value → name value = text := by
    intro text value found
    obtain ⟨before, after, rfl, _⟩ := List.lookup_eq_some_iff.mp found
    exact names (text, value) (by simp)
  intro json value read
  unfold variant at read
  split at read
  · exact .string _ _
  · split at read
    · rename_i found content skipped
      have same : name value = found := own found value read
      subst same
      exact .named _ (units _ skipped)
    · cases read
  · cases read

theorem lookup_of_mem {fields : List (String × β)} {field : String × β} (member : field ∈ fields)
    (distinct : (fields.map Prod.fst).Nodup) : fields.lookup field.1 = some field.2 := by
  obtain ⟨before, after, rfl⟩ := List.append_of_mem member
  refine List.lookup_eq_some_iff.mpr ⟨before, after, rfl, ?_⟩
  intro other earlier
  rw [List.map_append, List.map_cons, List.nodup_append] at distinct
  have apart := distinct.2.2 other.1 (List.mem_map_of_mem earlier) field.1 List.mem_cons_self
  simpa using Ne.symm apart

theorem within_record_iff {names : List String} {json : Json} {wholes : List (String × Json)}
    (record : isRecord names json = true) (same : wholes.map Prod.fst = names)
    (distinct : names.Nodup) :
    Within json (.object wholes) ↔ ∀ whole ∈ wholes, ∀ found,
      entry names whole.1 json = some found → Within found whole.2 := by
  -- the place of a name in the array form
  have place : ∀ i (inside : i < wholes.length), names.idxOf (wholes.get ⟨i, inside⟩).1 = i := by
    intro i inside
    have wide : i < names.length := by
      rw [← same, List.length_map]
      exact inside
    have name : (wholes.get ⟨i, inside⟩).1 = names.get ⟨i, wide⟩ := by
      simp only [← same, List.get_eq_getElem, List.getElem_map]
    rw [name]
    exact distinct.idxOf_getElem i wide
  constructor
  · intro within whole member found present
    cases within with
    | object keys each =>
      obtain ⟨before, after, rfl, _⟩ := List.lookup_eq_some_iff.mp present
      exact each (whole.1, found) (by simp) whole member rfl
    | @positional items _ length each =>
      obtain ⟨i, inside, rfl⟩ := List.getElem_of_mem member
      have there : items[i]? = some found := by
        have indexed := place i inside
        rw [List.get_eq_getElem] at indexed
        rwa [entry, indexed] at present
      obtain ⟨short, located⟩ := List.getElem?_eq_some_iff.mp there
      apply each (found, wholes.get ⟨i, inside⟩)
      have zipped : i < (items.zip wholes).length := by
        rw [List.length_zip]
        omega
      have pair := List.getElem_mem zipped
      rw [List.getElem_zip, located] at pair
      exact pair
    | _ => cases present
  · intro each
    cases json with
    | array items =>
      have short : items.length ≤ wholes.length := by
        rw [← List.length_map Prod.fst, same]
        exact of_decide_eq_true record
      refine .positional short ?_
      rintro ⟨part, whole⟩ member
      obtain ⟨i, inside, located⟩ := List.getElem_of_mem member
      rw [List.getElem_zip] at located
      obtain ⟨rfl, rfl⟩ := Prod.mk.inj located
      rw [List.length_zip] at inside
      apply each _ (List.getElem_mem _)
      have indexed := place i (by omega)
      rw [List.get_eq_getElem] at indexed
      rw [entry, indexed]
      exact List.getElem?_eq_getElem _
    | object fields =>
      simp only [isRecord, Bool.and_eq_true, List.all_eq_true, List.contains_iff_mem,
        decide_eq_true_eq] at record
      refine .object ?_ ?_
      · intro field member
        rw [same]
        exact record.1 field member
      · intro field member whole expected named
        apply each whole expected
        rw [entry, ← named]
        exact lookup_of_mem member record.2
    | _ => cases record

theorem untag_some {tag name : String} {json content : Json}
    (read : untag tag json = some (name, content)) :
    (∃ rest, json = .array (.string name :: rest) ∧ content = .array rest) ∨
    ∃ fields, json = .object fields ∧
      fields.filter (fun field => field.1 == tag) = [(tag, .string name)] ∧
      content = .object (fields.filter (fun field => field.1 != tag)) := by
  unfold untag at read
  split at read
  · rename_i found rest
    cases read
    exact .inl ⟨rest, rfl, rfl⟩
  · rename_i fields
    split at read
    · rename_i key found tags
      cases read
      have own : (key, Json.string name) ∈ fields.filter (fun field => field.1 == tag) := by
        rw [tags]
        exact List.mem_cons_self
      have same : key = tag := by simpa using (List.mem_filter.mp own).2
      subst same
      exact .inr ⟨fields, rfl, tags, rfl⟩
    · cases read
  · cases read

/-- A tagged variant is within its encoding when its content is. -/
theorem within_tagged {tag name : String} {json content : Json} {wholes : List (String × Json)}
    (read : untag tag json = some (name, content)) (within : Within content (.object wholes)) :
    Within json (.object ((tag, .string name) :: wholes)) := by
  rcases untag_some read with ⟨rest, rfl, rfl⟩ | ⟨fields, rfl, tags, rfl⟩
  · cases within with
    | positional length each =>
      refine .positional (Nat.succ_le_succ length) ?_
      intro pair member
      rw [List.zip_cons_cons] at member
      rcases List.mem_cons.mp member with rfl | later
      · exact .string _ _
      · exact each pair later
  · have kept : ∀ field ∈ fields, field.1 ≠ tag →
        field ∈ fields.filter (fun field => field.1 != tag) :=
      fun field member other => List.mem_filter.mpr ⟨member, by simpa using other⟩
    generalize fields.filter (fun field => field.1 != tag) = others at within kept
    cases within with
    | object keys each =>
      refine .object ?_ ?_
      · intro field member
        by_cases own : field.1 = tag
        · rw [own]
          exact List.mem_cons_self
        · exact List.mem_cons_of_mem _ (keys field (kept field member own))
      · intro field member whole expected named
        by_cases own : field.1 = tag
        · have only : field ∈ fields.filter (fun field => field.1 == tag) :=
            List.mem_filter.mpr ⟨member, by simpa using own⟩
          rw [tags, List.mem_singleton] at only
          rw [only]
          exact .string _ _
        · rcases List.mem_cons.mp expected with rfl | later
          · exact absurd named own
          · exact each field (kept field member own) whole later named

section fields
variable {decode : Json → Option α} {encode : α → Json} {slot : Option Json} {value : α}

theorem Strict.required (strict : Strict decode encode) (read : required decode slot = some value) :
    ∀ found, slot = some found → Within found (encode value) := by
  rintro found rfl
  exact strict found value read

theorem Strict.defaulted (strict : Strict decode encode) {otherwise : α}
    (read : defaulted decode otherwise slot = some value) :
    ∀ found, slot = some found → Within found (encode value) := by
  rintro found rfl
  exact strict found value read

end fields

end Serde

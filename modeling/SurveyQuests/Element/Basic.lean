import SurveyQuests.Calendar.Date

/-!
# Elements of the map

An element is a node, a way or a relation with a number and a set of tags.  A tag has a key and a
value, and no two tags of an element have the same key: `Tags` keeps that as an invariant, so that
`Tags.get?` is all there is to know about a set of tags.

## What is here

* `ElementKind` — the kinds and their words;
* `Tags`, `Tags.ofList`, `Tags.get?`, `Tags.keys`, with `Tags.get?_insert`;
* `Element` — an element with the day of its last edit.
-/

set_option autoImplicit false

namespace SurveyQuests

/-- The kinds of elements. -/
inductive ElementKind where
  | node
  | way
  | relation
deriving DecidableEq, Repr

namespace ElementKind

/-- All kinds. -/
def all : List ElementKind := [.node, .way, .relation]

/-- The word for one element of a kind. -/
def text : ElementKind → String
  | .node => "node"
  | .way => "way"
  | .relation => "relation"

/-- The word for several elements of a kind. -/
def plural : ElementKind → String
  | .node => "nodes"
  | .way => "ways"
  | .relation => "relations"

/-- The kind that a word for one element names. -/
def ofText? (s : String) : Option ElementKind := all.find? fun k ↦ k.text == s

/-- The kind that a word for several elements names. -/
def ofPlural? (s : String) : Option ElementKind := all.find? fun k ↦ k.plural == s

theorem ofText?_text (k : ElementKind) : ofText? k.text = some k := by
  cases k <;> decide

theorem ofPlural?_plural (k : ElementKind) : ofPlural? k.plural = some k := by
  cases k <;> decide

theorem ofPlural?_eq_some_iff {s : String} {k : ElementKind} :
    ofPlural? s = some k ↔ s = k.plural := by
  constructor
  · intro h
    have := List.find?_some h
    exact (beq_iff_eq.1 this).symm
  · rintro rfl
    exact ofPlural?_plural k

end ElementKind

/-! ## Tags -/

/-- Tags of an element, no two of them with the same key. -/
structure Tags where
  entries : List (String × String)
  nodup : (entries.map Prod.fst).Nodup

namespace Tags

/-- No tags. -/
def empty : Tags := ⟨[], List.nodup_nil⟩

instance : Inhabited Tags := ⟨empty⟩

/-- The value of a key, if there is a tag with the key. -/
def get? (tags : Tags) (key : String) : Option String := tags.entries.lookup key

/-- Is there a tag with the key? -/
def contains (tags : Tags) (key : String) : Bool := (tags.get? key).isSome

/-- The keys of the tags. -/
def keys (tags : Tags) : List String := tags.entries.map Prod.fst

/-- The number of tags. -/
def size (tags : Tags) : Nat := tags.entries.length

/-- The tags with the value of a key set; what the key had before is gone. -/
def insert (tags : Tags) (key value : String) : Tags where
  entries := (key, value) :: tags.entries.filter fun entry ↦ entry.1 != key
  nodup := by
    rw [List.map_cons, List.nodup_cons]
    refine ⟨?_, ?_⟩
    · simp
    · exact List.Nodup.sublist (List.Sublist.map _ List.filter_sublist) tags.nodup

/-- The tags of a list; of several tags with one key the last counts. -/
def ofList (entries : List (String × String)) : Tags :=
  entries.foldl (fun tags (key, value) ↦ tags.insert key value) empty

theorem lookup_filter_ne {entries : List (String × String)} {key other : String}
    (h : other ≠ key) :
    (entries.filter fun entry ↦ entry.1 != key).lookup other = entries.lookup other := by
  induction entries with
  | nil => rfl
  | cons entry entries ih =>
    obtain ⟨k, v⟩ := entry
    by_cases hk : k = key
    · have hb : (other == k) = false := by simpa [hk] using h
      have hf : (k != key) = false := by simpa using hk
      simp only [List.filter_cons, hf, List.lookup_cons, hb]
      exact ih
    · have hf : (k != key) = true := by simpa using hk
      simp only [List.filter_cons, hf, if_true, List.lookup_cons, ih]

theorem get?_insert (tags : Tags) (key value other : String) :
    (tags.insert key value).get? other = if other = key then some value else tags.get? other := by
  unfold get? insert
  by_cases h : other = key
  · simp [h]
  · have hb : (other == key) = false := by simpa using h
    simp only [List.lookup_cons, hb, h, if_false]
    exact lookup_filter_ne h

end Tags

/-- An element of the map. -/
structure Element where
  kind : ElementKind
  id : Int64 := 0
  tags : Tags := .empty
  /-- The day of the last edit, if it is known. -/
  edited : Option Date := none

end SurveyQuests

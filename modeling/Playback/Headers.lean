/-!
# Headers

The headers of a message: names with lists of values, in the order in which the names were first
given. Names that differ only by the case of ASCII letters are the same.
-/

namespace Playback

/-- Whether two names are equal apart from the case of ASCII letters. -/
def sameName (a b : String) : Bool :=
  a.toList.map Char.toLower == b.toList.map Char.toLower

/-- A header: a name in its first spelling, and values. -/
structure Header where
  /-- The name. -/
  name : String
  /-- The values in the order in which they were given. -/
  values : List String
  deriving DecidableEq, Repr

/-- No two headers of a list have the same name. -/
def NamesDistinct (entries : List Header) : Prop :=
  entries.Pairwise fun a b => sameName a.name b.name = false

/-- Changes that keep every name keep the names distinct. -/
theorem NamesDistinct.map {entries : List Header} (h : NamesDistinct entries)
    {f : Header → Header} (hf : ∀ e, (f e).name = e.name) : NamesDistinct (entries.map f) := by
  refine List.pairwise_map.2 (h.imp fun {a b} hab => ?_)
  rwa [hf, hf]

/-- Headers in order, each name once. -/
structure Headers where
  /-- The headers in the order of their first values. -/
  entries : List Header
  /-- No two of them have the same name. -/
  distinct : NamesDistinct entries

namespace Headers

/-- Headers with the same entries are equal. -/
@[ext] theorem ext {g h : Headers} (he : g.entries = h.entries) : g = h := by
  cases g
  cases h
  cases he
  rfl

/-- No headers. -/
def empty : Headers :=
  ⟨[], List.Pairwise.nil⟩

/-- The values of a header. -/
def getAll? (h : Headers) (name : String) : Option (List String) :=
  (h.entries.find? fun e => sameName e.name name).map (·.values)

/-- The first value of a header. -/
def get? (h : Headers) (name : String) : Option String :=
  (h.getAll? name).bind List.head?

/-- Whether there is a header with a name. -/
def contains (h : Headers) (name : String) : Bool :=
  (h.getAll? name).isSome

/-- The number of headers. -/
def size (h : Headers) : Nat :=
  h.entries.length

/-- All values of all headers, in order. -/
def allValues (h : Headers) : List String :=
  h.entries.flatMap (·.values)

/-- Change the values of every header. -/
def mapValues (h : Headers) (f : List String → List String) : Headers :=
  ⟨h.entries.map fun e => ⟨e.name, f e.values⟩, h.distinct.map fun _ => rfl⟩

/-- Change the values of the header with a name, if there is one. -/
def update (h : Headers) (name : String) (f : List String → List String) : Headers :=
  ⟨h.entries.map fun e => if sameName e.name name then ⟨e.name, f e.values⟩ else e,
    h.distinct.map fun e => by split <;> rfl⟩

/-- Add a value to the header with a name, or a new header with it behind the others. -/
def append (h : Headers) (name value : String) : Headers :=
  if hs : h.entries.any fun e => sameName e.name name then h.update name (· ++ [value])
  else
    ⟨h.entries ++ [⟨name, [value]⟩], by
      refine List.pairwise_append.2 ⟨h.distinct, List.pairwise_singleton _ _, ?_⟩
      intro a ha b hb
      rw [List.mem_singleton.1 hb]
      simpa using fun hn => hs (List.any_eq_true.2 ⟨a, ha, hn⟩)⟩

/-- The headers of a list of names and values, added in order. -/
def ofPairs (pairs : List (String × String)) : Headers :=
  pairs.foldl (fun h (name, value) => h.append name value) empty

end Headers

end Playback

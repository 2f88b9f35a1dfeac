import Playback.Visit

/-!
# Writing into the store

What is left alone by setting variables and by recording use counts. Nothing but the end of a
sequence or of a visit removes a variable.
-/

namespace Playback.Store

theorem setAll_cons (s : Store) (scope : Scope) (entry : String × String)
    (entries : List (String × String)) :
    s.setAll scope (entry :: entries) = (s.set scope entry.1 entry.2).setAll scope entries := rfl

/-- Setting variables leaves all others alone. -/
theorem get?_setAll_of_notMem {s : Store} {scope place : Scope} {key : String}
    {entries : List (String × String)} (h : scope = place → ∀ entry ∈ entries, entry.1 ≠ key) :
    (s.setAll scope entries).get? place key = s.get? place key := by
  induction entries generalizing s with
  | nil => rfl
  | cons entry entries ih =>
    rw [setAll_cons, ih fun hscope e he => h hscope e (List.mem_cons_of_mem entry he), get?_set]
    rw [if_neg]
    rintro ⟨hscope, hkey⟩
    exact h hscope.symm entry List.mem_cons_self hkey.symm

/-- A variable that is set to one value only, among others, has that value. -/
theorem get?_setAll_of_mem {s : Store} {scope : Scope} {key value : String}
    {entries : List (String × String)} (h : (key, value) ∈ entries)
    (honly : ∀ other, (key, other) ∈ entries → other = value) :
    (s.setAll scope entries).get? scope key = some value := by
  induction entries generalizing s with
  | nil => cases h
  | cons entry entries ih =>
    rw [setAll_cons]
    have hrest : ∀ other, (key, other) ∈ entries → other = value :=
      fun other hother => honly other (List.mem_cons_of_mem entry hother)
    by_cases hagain : (key, value) ∈ entries
    · exact ih hagain hrest
    · have hentry : (key, value) = entry := (List.mem_cons.1 h).resolve_right hagain
      have hlater : ∀ e ∈ entries, e.1 ≠ key := by
        rintro ⟨k, other⟩ he rfl
        exact hagain (hrest other he ▸ he)
      rw [get?_setAll_of_notMem fun _ => hlater, ← hentry, get?_set, if_pos ⟨rfl, rfl⟩]

/-- Setting variables of one scope changes no other scope. -/
theorem scope_setAll_of_ne (s : Store) {scope place : Scope} (h : place ≠ scope)
    (entries : List (String × String)) : (s.setAll scope entries).scope place = s.scope place := by
  induction entries generalizing s with
  | nil => rfl
  | cons entry entries ih => rw [setAll_cons, ih, scope_set, if_neg h]

theorem isSome_get?_set {s : Store} {place : Scope} {key : String}
    (h : (s.get? place key).isSome = true) (scope : Scope) (name value : String) :
    ((s.set scope name value).get? place key).isSome = true := by
  rw [get?_set]
  split
  · rfl
  · exact h

/-- Setting variables removes none. -/
theorem isSome_get?_setAll {s : Store} {place : Scope} {key : String}
    (h : (s.get? place key).isSome = true) (scope : Scope) (entries : List (String × String)) :
    ((s.setAll scope entries).get? place key).isSome = true := by
  induction entries generalizing s with
  | nil => exact h
  | cons entry entries ih =>
    rw [setAll_cons]
    exact ih (isSome_get?_set h scope entry.1 entry.2)

@[simp] theorem usesOf?_set (s : Store) (scope : Scope) (name value chapter : String) :
    (s.set scope name value).usesOf? chapter = s.usesOf? chapter := by
  rw [usesOf?, usesOf?, chapterUses_set]

@[simp] theorem chapterUses_setAll (s : Store) (scope : Scope) (entries : List (String × String)) :
    (s.setAll scope entries).chapterUses = s.chapterUses := by
  induction entries generalizing s with
  | nil => rfl
  | cons entry entries ih => rw [setAll_cons, ih, chapterUses_set]

@[simp] theorem usesOf?_setAll (s : Store) (scope : Scope) (entries : List (String × String))
    (chapter : String) : (s.setAll scope entries).usesOf? chapter = s.usesOf? chapter := by
  rw [usesOf?, usesOf?, chapterUses_setAll]

@[simp] theorem get?_setUses (s : Store) (chapter : String) (uses : Int) (place : Scope)
    (key : String) : (s.setUses chapter uses).get? place key = s.get? place key := by
  rw [get?, get?, scope_setUses]

theorem get?_clearLocal {s : Store} {place : Scope} (h : place ≠ .local) (key : String) :
    s.clearLocal.get? place key = s.get? place key := by
  rw [get?, get?, scope_clearLocal, if_neg h]

end Playback.Store

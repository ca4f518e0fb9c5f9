/-!
# TokenSource: where fresh tokens come from

A token source is an endless supply of candidate tokens. Whatever finite set of tokens is in use, the source proposes one outside it
sooner or later; `TokenSource.pick` takes the first such candidate. Random identifiers are such a source, and so is any numbering.
-/

namespace StepEngine

/-- An endless supply of candidate tokens that no finite set exhausts. -/
structure TokenSource where
  draw : Nat → String
  fresh : ∀ used : List String, ∃ n, draw n ∉ used

namespace TokenSource

/-- The place of the first candidate at or behind `n` that is not in use; `n` is not past the last place where one is known
to be. -/
def search (source : TokenSource) (used : List String) (n : Nat) (h : n ≤ Classical.choose (source.fresh used)) : Nat :=
  if hn : source.draw n ∈ used then
    search source used (n + 1)
      (Nat.lt_of_le_of_ne h fun he => Classical.choose_spec (source.fresh used) (he ▸ hn))
  else n
termination_by Classical.choose (source.fresh used) - n
decreasing_by
  have hne : n ≠ Classical.choose (source.fresh used) := fun he => Classical.choose_spec (source.fresh used) (he ▸ hn)
  omega

/-- The first candidate that is not in use. -/
def pick (source : TokenSource) (used : List String) : String :=
  source.draw (source.search used 0 (Nat.zero_le _))

/-- The place that a search stops at holds a candidate that is not in use. -/
theorem search_not_mem (source : TokenSource) (used : List String) (n : Nat)
    (h : n ≤ Classical.choose (source.fresh used)) : source.draw (source.search used n h) ∉ used := by
  fun_induction search source used n h with
  | case1 n h hn ih => exact ih
  | case2 n h hn => exact hn

/-- The candidate that is picked is not in use. -/
theorem pick_not_mem (source : TokenSource) (used : List String) : source.pick used ∉ used :=
  source.search_not_mem used 0 (Nat.zero_le _)

/-- The length of all texts of a list together. -/
def totalLength (used : List String) : Nat := used.foldr (fun t total => t.length + total) 0

/-- Every text of a list is no longer than all of them together. -/
theorem length_le_totalLength {used : List String} {t : String} (h : t ∈ used) : t.length ≤ totalLength used := by
  induction used with
  | nil => cases h
  | cons u rest ih =>
    rw [totalLength, List.foldr_cons]
    rcases List.mem_cons.1 h with rfl | h
    · exact Nat.le_add_right _ _
    · exact Nat.le_trans (ih h) (Nat.le_add_left _ _)

/-- The source that proposes one label, and longer and longer variants of it while those before are in use. -/
def labelled (label : String) : TokenSource where
  draw n := label ++ String.ofList (List.replicate n '~')
  fresh used := by
    refine ⟨totalLength used + 1, fun h => ?_⟩
    have := length_le_totalLength h
    rw [String.length_append, String.length_ofList, List.length_replicate] at this
    omega

end TokenSource

end StepEngine

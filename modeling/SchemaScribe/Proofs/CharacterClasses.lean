import SchemaScribe.Unicode.WhiteSpace
import SchemaScribe.Unicode.WordCharacters

/-!
# Words and blanks

White space and word characters are two disjoint classes, and the marks of the schema notation lie
in neither. A maximal run of either class therefore ends exactly where the other class or a mark
begins, and a text made of such runs is taken apart in one way only.
-/
namespace SchemaScribe.Unicode

/-- A covered code point lies in one of the listed runs. -/
theorem Ranges.exists_run_of_covers {runs : Ranges} {n : Nat} (h : runs.covers n = true) :
    ∃ run ∈ runs, run.1 ≤ n ∧ n ≤ run.2 := by
  induction runs with
  | nil => simp [covers] at h
  | cons run rest ih =>
      obtain ⟨first, last⟩ := run
      by_cases hf : n < first
      · simp [covers, hf] at h
      · simp only [covers, hf, if_false, Bool.or_eq_true, decide_eq_true_eq] at h
        rcases h with hl | hr
        · exact ⟨(first, last), by simp, by omega, hl⟩
        · obtain ⟨run, hmem, hrun⟩ := ih hr
          exact ⟨run, by simp [hmem], hrun⟩

/-- Two lists of runs that pairwise do not meet cover no common code point. -/
theorem Ranges.covers_eq_false_of_apart {runs others : Ranges} {n : Nat}
    (hapart : ∀ run ∈ runs, ∀ other ∈ others, run.2 < other.1 ∨ other.2 < run.1)
    (h : runs.covers n = true) : others.covers n = false := by
  rw [Bool.eq_false_iff]
  intro ho
  obtain ⟨run, hmem, hlo, hhi⟩ := exists_run_of_covers h
  obtain ⟨other, hmem', hlo', hhi'⟩ := exists_run_of_covers ho
  have := hapart run hmem other hmem'
  omega

theorem spaceRanges_apart_wordRanges :
    ∀ run ∈ spaceRanges, ∀ other ∈ wordRanges, run.2 < other.1 ∨ other.2 < run.1 := by
  decide +kernel

theorem isWord_of_isSpace {c : Char} (h : isSpace c = true) : isWord c = false :=
  Ranges.covers_eq_false_of_apart spaceRanges_apart_wordRanges h

theorem isSpace_of_isWord {c : Char} (h : isWord c = true) : isSpace c = false := by
  rw [Bool.eq_false_iff]
  intro hs
  simp [isWord_of_isSpace hs] at h

/-- A word character is none of the marks that the notation gives a meaning to. -/
theorem ne_of_isWord {c mark : Char} (h : isWord c = true) (hm : isWord mark = false) :
    c ≠ mark := by
  rintro rfl
  simp [h] at hm

/-- One or more word characters. -/
structure IsToken (cs : List Char) : Prop where
  ne_nil : cs ≠ []
  isWord : ∀ c ∈ cs, isWord c = true

instance (cs : List Char) : Decidable (IsToken cs) :=
  decidable_of_iff (cs ≠ [] ∧ cs.all isWord = true)
    ⟨fun h => ⟨h.1, List.all_eq_true.1 h.2⟩, fun h => ⟨h.ne_nil, List.all_eq_true.2 h.isWord⟩⟩

theorem IsToken.not_mem {cs : List Char} (h : IsToken cs) {mark : Char}
    (hm : Unicode.isWord mark = false) : mark ∉ cs :=
  fun hmem => ne_of_isWord (h.isWord mark hmem) hm rfl

@[simp] theorem isWord_openBrace : isWord '{' = false := by decide
@[simp] theorem isWord_closeBrace : isWord '}' = false := by decide
@[simp] theorem isWord_lineFeed : isWord '\n' = false := by decide
@[simp] theorem isWord_blank : isWord ' ' = false := by decide
@[simp] theorem isSpace_blank : isSpace ' ' = true := by decide
@[simp] theorem isSpace_openBrace : isSpace '{' = false := by decide
@[simp] theorem isSpace_closeBrace : isSpace '}' = false := by decide

/-- The head of a text that starts with a run belongs to the run. -/
theorem head_run {q : Char → Prop} {run : List Char} (hne : run ≠ []) (hrun : ∀ c ∈ run, q c)
    (rest : List Char) : ∀ c ∈ (run ++ rest).head?, q c := by
  obtain ⟨d, ds, rfl⟩ := List.exists_cons_of_ne_nil hne
  intro c hc
  have hd : c = d := by simpa [eq_comm] using hc
  exact hrun c (by simp [hd])

/-- A run that the next character does not continue is taken whole. -/
theorem takeWhile_run {p : Char → Bool} {run rest : List Char} (hrun : ∀ c ∈ run, p c = true)
    (hrest : ∀ c ∈ rest.head?, p c = false) : (run ++ rest).takeWhile p = run := by
  rw [List.takeWhile_append_of_pos hrun]
  cases rest with
  | nil => simp
  | cons c rest => simp [hrest c rfl]

/-- What follows a run that the next character does not continue. -/
theorem dropWhile_run {p : Char → Bool} {run rest : List Char} (hrun : ∀ c ∈ run, p c = true)
    (hrest : ∀ c ∈ rest.head?, p c = false) : (run ++ rest).dropWhile p = rest := by
  have h := List.takeWhile_append_dropWhile (p := p) (l := run ++ rest)
  rw [takeWhile_run hrun hrest] at h
  exact List.append_cancel_left h

/-- A text is divided into a run and what does not continue it in one way only. -/
theorem run_append_inj {p : Char → Bool} {run rest run' rest' : List Char}
    (hrun : ∀ c ∈ run, p c = true) (hrest : ∀ c ∈ rest.head?, p c = false)
    (hrun' : ∀ c ∈ run', p c = true) (hrest' : ∀ c ∈ rest'.head?, p c = false)
    (h : run ++ rest = run' ++ rest') : run = run' ∧ rest = rest' := by
  have ht := takeWhile_run hrun hrest
  have hd := dropWhile_run hrun hrest
  rw [h, takeWhile_run hrun' hrest'] at ht
  rw [h, dropWhile_run hrun' hrest'] at hd
  exact ⟨ht.symm, hd.symm⟩

end SchemaScribe.Unicode

import SchemaScribe.Proofs.ArtifactPaths

/-!
# Enclosing paths

The directories that enclose a path form a ladder: each one is a name in the next, up to segments
that name nothing, and the last is the root or the working directory. The path stands on top of the
ladder if its last segment names something.
-/
namespace SchemaScribe

namespace Path

/-- A path is a name in a directory, up to segments that name nothing. -/
structure Within (p dir : Path) (name : String) : Prop where
  steps_eq : p.steps = dir.steps ++ [name]
  getLast?_segments : p.segments.getLast? = some name
  isAbsolute_eq : p.isAbsolute = dir.isAbsolute
  isPrefix : dir.text.toList <+: p.text.toList

/-- Paths from the innermost outwards. Each lies in the next, until one is reached that is there in
any case. -/
inductive Ladder : List Path → Prop where
  | ground {dir : Path} {outer : List Path} (h : dir.text = "" ∨ dir.text = "." ∨ dir.text = "/") :
      Ladder (dir :: outer)
  | rung {dir parent : Path} {outer : List Path} {name : String} (h : dir.Within parent name)
      (hladder : Ladder (parent :: outer)) : Ladder (dir :: parent :: outer)

/-- A path that stands on the ladder of its enclosing directories. -/
def Grounded (p : Path) : Prop :=
  ∃ dir outer name, p.enclosing = dir :: outer ∧ Ladder (dir :: outer) ∧ p.Within dir name

/-- Behind the steps of the directory and idle segments comes the name. -/
theorem Within.exists_segments_eq {p dir : Path} {name : String} (h : p.Within dir name) :
    ∃ before, p.segments = before ++ [name] ∧
      before.filter (fun s => !isIdle s.toList) = dir.steps := by
  obtain ⟨before, hbefore⟩ := List.getLast?_eq_some_iff.1 h.getLast?_segments
  have hname : isIdle name.toList = false := by
    have hmem : name ∈ p.steps := by simp [h.steps_eq]
    simpa using (List.mem_filter.1 hmem).2
  have hsteps := h.steps_eq
  rw [steps, hbefore, List.filter_append, List.filter_singleton, hname] at hsteps
  exact ⟨before, hbefore, List.append_cancel_right hsteps⟩

theorem Within.text_ne_empty {p dir : Path} {name : String} (h : p.Within dir name) :
    p.text ≠ "" := by
  intro hempty
  have hsteps := h.steps_eq
  obtain ⟨text⟩ := p
  obtain rfl : text = "" := hempty
  have hnone : steps ⟨""⟩ = [] := by decide
  simp [hnone] at hsteps

theorem intercalate_concat {sep : List Char} {pieces : List (List Char)} (h : pieces ≠ [])
    (piece : List Char) :
    sep.intercalate (pieces ++ [piece]) = sep.intercalate pieces ++ sep ++ piece := by
  induction pieces with
  | nil => exact absurd rfl h
  | cons first pieces ih =>
      cases pieces with
      | nil => simp [List.intercalate_cons_cons]
      | cons next pieces =>
          have hrest := ih (List.cons_ne_nil _ _)
          rw [List.cons_append] at hrest
          rw [List.cons_append, List.cons_append, List.intercalate_cons_cons, hrest,
            List.intercalate_cons_cons]
          simp

theorem intercalate_isPrefix (sep : List Char) (pieces rest : List (List Char)) :
    sep.intercalate pieces <+: sep.intercalate (pieces ++ rest) := by
  induction rest generalizing pieces with
  | nil => simp
  | cons piece rest ih =>
      have hnext := ih (pieces ++ [piece])
      rw [List.append_assoc, List.singleton_append] at hnext
      refine List.IsPrefix.trans ?_ hnext
      by_cases h : pieces = []
      · simp [h]
      · rw [intercalate_concat h, List.append_assoc]
        exact List.prefix_append ..

/-- The path with a lead and given segments, from the last segment to the first. -/
def assemble (lead : Lead) (segments : List (List Char)) : Path :=
  ⟨String.ofList (lead.text ++ ['/'].intercalate segments.reverse)⟩

@[simp] theorem toList_text_assemble (lead : Lead) (segments : List (List Char)) :
    (assemble lead segments).text.toList = lead.text ++ ['/'].intercalate segments.reverse := by
  simp [assemble]

/-- Segments that can stand behind a lead, from the last to the first: behind a leading dot comes a
separator, and a bare path starts with a character that is none. -/
structure Fits (lead : Lead) (segments : List (List Char)) : Prop where
  no_slash : ∀ s ∈ segments, '/' ∉ s
  here : lead = .here → ∀ s, segments.getLast? = some s → s = []
  bare : lead = .bare → ∀ s, segments.getLast? = some s → s ≠ []

section Assemble

variable {lead : Lead} {segment : List Char} {segments outer : List (List Char)}

theorem Fits.of_cons (h : Fits lead (segment :: outer)) : Fits lead outer := by
  have hlast : ∀ s, outer.getLast? = some s → (segment :: outer).getLast? = some s := by
    intro s hs
    rw [List.getLast?_cons, hs, Option.getD_some]
  exact ⟨fun s hs => h.no_slash s (List.mem_cons_of_mem _ hs),
    fun hlead s hs => h.here hlead s (hlast s hs), fun hlead s hs => h.bare hlead s (hlast s hs)⟩

/-- Behind a leading dot the first segment is empty. -/
theorem Fits.exists_reverse_eq (h : Fits .here segments) (hne : segments ≠ []) :
    ∃ rest, segments.reverse = [] :: rest := by
  have hreverse : segments.reverse ≠ [] := by simpa using hne
  obtain ⟨first, rest, hrest⟩ := List.exists_cons_of_ne_nil hreverse
  obtain rfl : first = [] := h.here rfl first (by simp [← List.head?_reverse, hrest])
  exact ⟨rest, hrest⟩

/-- The pieces between the separators of such a path. -/
def pieces (lead : Lead) (segments : List (List Char)) : List (List Char) :=
  match lead with
  | .root => [] :: segments.reverse
  | .here => ['.'] :: segments.reverse.tail
  | .bare => segments.reverse

theorem Fits.text_assemble (h : Fits lead segments) (hne : segments ≠ []) :
    lead.text ++ ['/'].intercalate segments.reverse = ['/'].intercalate (pieces lead segments) := by
  have hreverse : segments.reverse ≠ [] := by simpa using hne
  cases lead with
  | root => simp [Lead.text, pieces, List.intercalate_cons_of_ne_nil hreverse]
  | here =>
      -- The leading dot takes the place of the empty segment behind it.
      obtain ⟨rest, hrest⟩ := h.exists_reverse_eq hne
      rw [pieces, hrest, List.tail_cons, Lead.text]
      cases rest with
      | nil => simp
      | cons next rest => simp [List.intercalate_cons_cons]
  | bare => rfl

theorem Fits.segments_assemble (h : Fits lead segments) (hne : segments ≠ []) :
    (assemble lead segments).segments = (pieces lead segments).map String.ofList := by
  have hslash : ∀ piece ∈ pieces lead segments, '/' ∉ piece := by
    intro piece hpiece
    cases lead with
    | root =>
        rcases List.mem_cons.1 hpiece with rfl | hmem
        · exact List.not_mem_nil
        · exact h.no_slash piece (List.mem_reverse.1 hmem)
    | here =>
        rcases List.mem_cons.1 hpiece with rfl | hmem
        · decide
        · exact h.no_slash piece (List.mem_reverse.1 (List.mem_of_mem_tail hmem))
    | bare => exact h.no_slash piece (List.mem_reverse.1 hpiece)
  have hpieces : pieces lead segments ≠ [] := by
    cases lead <;> simp [pieces, hne]
  rw [Path.segments, toList_text_assemble, h.text_assemble hne,
    List.splitOn_intercalate '/' hslash hpieces]

/-- The steps to a place are its segments but the idle ones. -/
theorem Fits.steps_assemble (h : Fits lead segments) :
    (assemble lead segments).steps =
      (segments.reverse.map String.ofList).filter fun s => !isIdle s.toList := by
  by_cases hne : segments = []
  · subst hne
    cases lead <;> decide
  rw [steps, h.segments_assemble hne]
  cases lead with
  | root => rw [pieces, List.map_cons, List.filter_cons_of_neg (by decide)]
  | here =>
      obtain ⟨rest, hrest⟩ := h.exists_reverse_eq hne
      rw [pieces, hrest, List.tail_cons, List.map_cons, List.map_cons,
        List.filter_cons_of_neg (by decide), List.filter_cons_of_neg (by decide)]
  | bare => rfl

theorem Fits.isAbsolute_assemble (h : Fits lead segments) :
    (assemble lead segments).isAbsolute = decide (lead = .root) := by
  rw [isAbsolute, toList_text_assemble]
  cases lead with
  | root => rfl
  | here => rfl
  | bare =>
      by_cases hne : segments = []
      · subst hne
        decide
      obtain ⟨first, rest, hrest⟩ := List.exists_cons_of_ne_nil
        (show segments.reverse ≠ [] by simpa using hne)
      have hfirst : segments.getLast? = some first := by simp [← List.head?_reverse, hrest]
      have hslash := h.no_slash first (List.mem_of_getLast? hfirst)
      obtain ⟨c, cs, rfl⟩ := List.exists_cons_of_ne_nil (h.bare rfl first hfirst)
      have hprefix : ['/'].intercalate [c :: cs] <+: ['/'].intercalate ([c :: cs] ++ rest) :=
        intercalate_isPrefix ..
      obtain ⟨after, hafter⟩ := hprefix
      have hc : c ≠ '/' := fun heq => hslash (by simp [heq])
      rw [hrest, show (c :: cs) :: rest = [c :: cs] ++ rest from rfl, ← hafter]
      simp [Lead.text, hc]

theorem filter_reverse_dropWhile_isIdle (segments : List (List Char)) :
    (((segments.dropWhile isIdle).reverse.map String.ofList).filter fun s => !isIdle s.toList) =
      (segments.reverse.map String.ofList).filter fun s => !isIdle s.toList := by
  induction segments with
  | nil => rfl
  | cons segment outer ih =>
      by_cases hidle : isIdle segment = true
      · rw [List.dropWhile_cons_of_pos hidle, ih]
        simp [hidle]
      · rw [List.dropWhile_cons_of_neg hidle]

theorem Fits.dropWhile (h : Fits lead segments) : Fits lead (segments.dropWhile isIdle) := by
  induction segments with
  | nil => exact h
  | cons segment outer ih =>
      by_cases hidle : isIdle segment = true
      · rw [List.dropWhile_cons_of_pos hidle]
        exact ih h.of_cons
      · rwa [List.dropWhile_cons_of_neg hidle]

/-- A place with a last segment that names something lies in the place before it. -/
theorem Fits.within (h : Fits lead (segment :: outer)) (hidle : isIdle segment = false) :
    (assemble lead (segment :: outer)).Within (assemble lead (outer.dropWhile isIdle))
      (String.ofList segment) where
  steps_eq := by
    rw [h.steps_assemble, h.of_cons.dropWhile.steps_assemble, filter_reverse_dropWhile_isIdle]
    simp [hidle]
  getLast?_segments := by
    rw [h.segments_assemble (List.cons_ne_nil _ _)]
    cases lead with
    | root => simp [pieces, List.getLast?_cons]
    | here =>
        -- The segment behind a leading dot is empty, so there is another one before this one.
        cases outer with
        | nil => simp [h.here rfl segment rfl, isIdle] at hidle
        | cons parent outer =>
            have hne : (parent :: outer).reverse ≠ [] := by simp
            rw [pieces, List.reverse_cons, List.tail_append_of_ne_nil hne]
            simp [List.getLast?_cons]
    | bare => simp [pieces]
  isAbsolute_eq := by rw [h.isAbsolute_assemble, h.of_cons.dropWhile.isAbsolute_assemble]
  isPrefix := by
    have hsplit : (segment :: outer).reverse = (outer.dropWhile isIdle).reverse ++
        ((outer.takeWhile isIdle).reverse ++ [segment]) := by
      rw [List.reverse_cons, ← List.append_assoc, ← List.reverse_append,
        List.takeWhile_append_dropWhile]
    rw [toList_text_assemble, toList_text_assemble, hsplit, List.prefix_append_right_inj]
    exact intercalate_isPrefix ..

theorem exists_directoriesFrom_eq (lead : Lead) (segments : List (List Char)) :
    ∃ outer,
      directoriesFrom lead segments = assemble lead (segments.dropWhile isIdle) :: outer := by
  induction segments with
  | nil => cases lead <;> exact ⟨_, rfl⟩
  | cons segment outer ih =>
      by_cases hidle : isIdle segment = true
      · rw [directoriesFrom, if_pos hidle, List.dropWhile_cons_of_pos hidle]
        exact ih
      · rw [directoriesFrom, if_neg hidle, List.dropWhile_cons_of_neg hidle]
        exact ⟨_, rfl⟩

theorem Fits.ladder_directoriesFrom (h : Fits lead segments) :
    Ladder (directoriesFrom lead segments) := by
  induction segments with
  | nil => cases lead <;> exact .ground (by decide)
  | cons segment outer ih =>
      rw [directoriesFrom]
      split_ifs with hidle
      · exact ih h.of_cons
      · obtain ⟨rest, hrest⟩ := exists_directoriesFrom_eq lead outer
        have hladder := ih h.of_cons
        rw [hrest] at hladder ⊢
        exact .rung (h.within (by simpa using hidle)) hladder

end Assemble

variable {p : Path} {c : Char}

theorem text_append_of_splitLead {cs body : List Char} {lead : Lead}
    (h : splitLead cs = (lead, body)) : lead.text ++ body = cs := by
  unfold splitLead at h
  split at h <;> obtain ⟨rfl, rfl⟩ := Prod.mk.inj h <;> rfl

/-- The pieces of a text behind its lead fit the lead. -/
theorem fits_of_splitLead {cs body : List Char} {lead : Lead} (h : splitLead cs = (lead, body))
    (hcs : cs ≠ []) : Fits lead (body.splitOn '/').reverse where
  no_slash s hs := Text.not_mem_of_mem_splitOn (List.mem_reverse.1 hs)
  here hlead s hs := by
    rw [List.getLast?_reverse] at hs
    unfold splitLead at h
    split at h <;> obtain ⟨rfl, rfl⟩ := Prod.mk.inj h
    · cases hlead
    · simpa using hs.symm
    · simpa [List.splitOn_cons_eq_if_modifyHead] using hs.symm
    · cases hlead
  bare hlead s hs := by
    rw [List.getLast?_reverse] at hs
    unfold splitLead at h
    split at h <;> obtain ⟨rfl, rfl⟩ := Prod.mk.inj h
    · cases hlead
    · cases hlead
    · cases hlead
    · next hroot _ _ =>
        obtain ⟨c, rest, rfl⟩ := List.exists_cons_of_ne_nil hcs
        have hc : ¬(c == '/') = true := fun heq => hroot rest (by rw [eq_of_beq heq])
        rw [List.splitOn_cons_eq_if_modifyHead, if_neg hc, List.head?_modifyHead] at hs
        obtain ⟨first, -, rfl⟩ := Option.map_eq_some_iff.1 hs
        exact List.cons_ne_nil _ _

theorem getLast?_of_splitLead {cs body : List Char} {lead : Lead}
    (h : splitLead cs = (lead, body)) (hlast : cs.getLast? = some c) (hslash : c ≠ '/')
    (hdot : c ≠ '.') : body.getLast? = some c := by
  rw [← text_append_of_splitLead h, List.getLast?_append, Option.or_eq_some_iff] at hlast
  rcases hlast with hlast | ⟨-, hlead⟩
  · exact hlast
  · cases lead with
    | root => exact absurd (Option.some.inj hlead).symm hslash
    | here => exact absurd (Option.some.inj hlead).symm hdot
    | bare => cases hlead

/-- The last piece of a text ends as the text does. -/
theorem exists_last_piece {cs : List Char} (hlast : cs.getLast? = some c) (hslash : c ≠ '/') :
    ∃ segment outer, (cs.splitOn '/').reverse = segment :: outer ∧
      ['/'].intercalate (segment :: outer).reverse = cs ∧ segment.getLast? = some c := by
  have hne : (cs.splitOn '/').reverse ≠ [] := by simp
  obtain ⟨segment, outer, houter⟩ := List.exists_cons_of_ne_nil hne
  have hjoin : ['/'].intercalate (segment :: outer).reverse = cs := by
    rw [← houter, List.reverse_reverse, List.intercalate_splitOn]
  refine ⟨segment, outer, houter, hjoin, ?_⟩
  by_cases hnil : outer = []
  · simpa [hnil, ← hjoin] using hlast
  · have hreverse : outer.reverse ≠ [] := by simpa using hnil
    rw [← hjoin, List.reverse_cons, intercalate_concat hreverse, List.append_assoc,
      List.singleton_append, List.getLast?_append_cons, List.getLast?_cons] at hlast
    cases hend : segment.getLast? with
    | none =>
        rw [hend] at hlast
        exact absurd (Option.some.inj hlast).symm hslash
    | some last => simpa [hend] using hlast

theorem isIdle_eq_false_of_getLast? {segment : List Char} (hlast : segment.getLast? = some c)
    (hdot : c ≠ '.') : isIdle segment = false := by
  rw [isIdle, Bool.or_eq_false_iff, decide_eq_false_iff_not, decide_eq_false_iff_not]
  constructor
  · rintro rfl
    cases hlast
  · rintro rfl
    exact hdot (Option.some.inj hlast).symm

/-- A path is grounded if its last character is neither a separator nor a dot. -/
theorem grounded_of_getLast? (hlast : p.text.toList.getLast? = some c) (hslash : c ≠ '/')
    (hdot : c ≠ '.') : p.Grounded := by
  have hcs : p.text.toList ≠ [] := by
    intro hnil
    simp [hnil] at hlast
  obtain ⟨lead, body, hsplit⟩ : ∃ lead body, splitLead p.text.toList = (lead, body) :=
    ⟨_, _, rfl⟩
  obtain ⟨segment, outer, houter, hjoin, hend⟩ :=
    exists_last_piece (getLast?_of_splitLead hsplit hlast hslash hdot) hslash
  have hidle : isIdle segment = false := isIdle_eq_false_of_getLast? hend hdot
  have hp : p = assemble lead (segment :: outer) := by
    rw [assemble, hjoin, text_append_of_splitLead hsplit, String.ofList_toList]
  have henclosing : p.enclosing = directoriesFrom lead outer := by
    simp only [enclosing, hsplit, houter, List.dropWhile_cons_of_neg (Bool.eq_false_iff.1 hidle)]
  have hfits := fits_of_splitLead hsplit hcs
  rw [houter] at hfits
  obtain ⟨rest, hrest⟩ := exists_directoriesFrom_eq lead outer
  have hladder := hfits.of_cons.ladder_directoriesFrom
  rw [hrest] at hladder
  refine ⟨_, rest, String.ofList segment, henclosing.trans hrest, hladder, ?_⟩
  rw [hp]
  exact hfits.within hidle

end Path

/-- Artifacts have the ending of a module, so their paths are grounded. -/
theorem Artifact.Plan.grounded_of_mem_render {plan : Plan} {c : Schema.Catalogue} {a : Artifact}
    (h : a ∈ plan.render c) : a.path.Grounded := by
  rw [render_eq_map] at h
  obtain ⟨s, -, rfl⟩ := List.mem_map.1 h
  have hlast : (plan.fileNameOf s).toList.getLast? = some 's' := by
    simp [fileNameOf, fileName]
  rw [path_artifact]
  exact Path.grounded_of_getLast? (Path.getLast?_text_join hlast) (by decide) (by decide)

end SchemaScribe

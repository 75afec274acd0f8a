import SchemaScribe.Proofs.EnclosingPaths
import SchemaScribe.Proofs.TreeGrowth
import Mathlib.Data.List.Find

/-!
# Delivering twice

A tree in which some artifacts were delivered can take the same delivery again. Directories that
could be made are there, and those that could not be made still cannot, since growing mends no other
fault than a missing entry. So the sink takes the same artifacts again, makes no directory, and
leaves every file with the bytes that the first delivery gave it.
-/
namespace SchemaScribe

theorem Path.Within.acceptable {p dir : Path} {name : String} (h : p.Within dir name)
    (hp : p.Acceptable) (hdir : dir.text ≠ "") : dir.Acceptable where
  no_nul hnul := hp.no_nul (h.isPrefix.subset hnul)
  ne_empty := hdir
  not_long := by
    obtain ⟨rest, hrest⟩ := h.isPrefix
    have htext : p.text = dir.text ++ String.ofList rest := by
      apply String.toList_inj.1
      rw [String.toList_append, String.toList_ofList, hrest]
    have hlong := hp.not_long
    rw [htext, String.utf8ByteSize_append] at hlong
    omega

namespace FileTree

variable {t t₁ t' : FileTree} {l l' : Location} {p dir : Path} {name : String}

section Walk

theorem exists_fault_of_not_directory (h : t.at? l ≠ some .directory) :
    ∃ fault, ∀ segment, t.step l segment = .error fault := by
  match hl : t.at? l with
  | none => exact ⟨.notFound, fun segment => by rw [step, hl]⟩
  | some .directory => exact absurd hl h
  | some (.file bytes) => exact ⟨.notDirectory, fun segment => by rw [step, hl]⟩

theorem at?_of_step_eq_ok {segment : String} (h : t.step l segment = .ok l') :
    t.at? l = some .directory := by
  by_contra hl
  obtain ⟨fault, hfault⟩ := exists_fault_of_not_directory hl
  simp [hfault] at h

theorem step_ne_notFound (h : t.at? l = some .directory) (segment : String) :
    t.step l segment ≠ .error .notFound := by
  rw [step, h]
  dsimp only
  split_ifs <;> simp

theorem step_of_idle (h : t.at? l = some .directory) {segment : String}
    (hidle : Path.isIdle segment.toList = true) : t.step l segment = .ok l := by
  have hsegment : segment = "" ∨ segment = "." := by
    rw [Path.isIdle, Bool.or_eq_true, decide_eq_true_eq, decide_eq_true_eq] at hidle
    exact hidle.imp String.toList_inj.1 String.toList_inj.1
  rw [step, h]
  exact if_pos hsegment

/-- Before another segment, idle ones only ask for a directory to stand on, as that one does. -/
theorem walk_concat (segments : List String) (last : String) :
    (segments ++ [last]).foldlM t.step l =
      (segments.filter (fun s => !Path.isIdle s.toList) ++ [last]).foldlM t.step l := by
  induction segments generalizing l with
  | nil => rfl
  | cons segment segments ih =>
      by_cases hidle : Path.isIdle segment.toList = true
      · rw [List.filter_cons_of_neg (by simpa using hidle), ← ih, List.cons_append,
          List.foldlM_cons]
        by_cases hdir : t.at? l = some .directory
        · rw [step_of_idle hdir hidle]
          rfl
        · obtain ⟨fault, hfault⟩ := exists_fault_of_not_directory hdir
          obtain ⟨first, rest, hrest⟩ :=
            List.exists_cons_of_ne_nil (show segments ++ [last] ≠ [] by simp)
          rw [hrest, List.foldlM_cons, hfault, hfault]
          rfl
      · rw [List.filter_cons_of_pos (by simpa using hidle), List.cons_append, List.cons_append,
          List.foldlM_cons, List.foldlM_cons]
        exact bind_congr fun l' => ih

theorem walk_concat_eq_ok_iff {segments : List String} {last : String} :
    (segments ++ [last]).foldlM t.step l = .ok l' ↔
      ∃ l₁, segments.foldlM t.step l = .ok l₁ ∧ t.step l₁ last = .ok l' := by
  simp only [List.foldlM_append, List.foldlM_cons, List.foldlM_nil, bind_pure]
  cases segments.foldlM t.step l with
  | error fault => simp [bind, Except.bind]
  | ok l₁ => simp [bind, Except.bind]

/-- The steps of a directory lead to it. -/
theorem isDir_iff_walk (hdir : dir.Acceptable) :
    t.isDir dir = true ↔
      ∃ l, dir.steps.foldlM t.step (t.start dir) = .ok l ∧ t.at? l = some .directory := by
  -- An idle segment at the end asks for a directory there, so it can be put behind both walks.
  have hidle : ∀ segments l₀, (∃ l, segments.foldlM t.step l₀ = .ok l ∧
      t.at? l = some .directory) ↔ ∃ l, (segments ++ [""]).foldlM t.step l₀ = .ok l := by
    intro segments l₀
    constructor
    · rintro ⟨l, hwalk, hl⟩
      exact ⟨l, walk_concat_eq_ok_iff.2 ⟨l, hwalk, step_of_idle hl rfl⟩⟩
    · rintro ⟨l, hwalk⟩
      obtain ⟨l₁, hwalk, hstep⟩ := walk_concat_eq_ok_iff.1 hwalk
      exact ⟨l₁, hwalk, at?_of_step_eq_ok hstep⟩
  rw [isDir_iff, locate_of_acceptable hdir, hidle, hidle, walk_concat, Path.steps]

theorem locate_of_within (h : p.Within dir name) (hp : p.Acceptable) :
    t.locate p = (dir.steps ++ [name]).foldlM t.step (t.start dir) := by
  obtain ⟨before, hsegments, hsteps⟩ := h.exists_segments_eq
  rw [locate_of_acceptable hp, hsegments, walk_concat, hsteps, start, start, h.isAbsolute_eq]

end Walk

section Stands

/-- A directory that is there. The empty path is the working directory. -/
def Stands (t : FileTree) (dir : Path) : Prop := dir.text = "" ∨ t.isDir dir = true

theorem Grows.stands (h : t.Grows t') (hdir : t.Stands dir) : t'.Stands dir :=
  hdir.imp_right h.isDir

theorem Stands.exists_walk (hhere : t.at? t.here = some .directory) (h : t.Stands dir) :
    ∃ l, dir.steps.foldlM t.step (t.start dir) = .ok l ∧ t.at? l = some .directory := by
  rcases h with hempty | hdir
  · obtain ⟨text⟩ := dir
    obtain rfl : text = "" := hempty
    exact ⟨t.here, rfl, hhere⟩
  · obtain ⟨l, hl, -⟩ := isDir_iff.1 hdir
    exact (isDir_iff_walk (acceptable_of_locate hl)).1 hdir

/-- In a directory that is there, nothing is missing on the way to an entry. -/
theorem Stands.locate_ne_notFound (hhere : t.at? t.here = some .directory) (hdir : t.Stands dir)
    (h : p.Within dir name) : t.locate p ≠ .error .notFound := by
  by_cases hp : p.Acceptable
  · obtain ⟨l, hwalk, hl⟩ := hdir.exists_walk hhere
    rw [locate_of_within h hp]
    simp only [List.foldlM_append, List.foldlM_cons, List.foldlM_nil, bind_pure, hwalk]
    exact step_ne_notFound hl name
  · obtain ⟨fault, hne, hfault⟩ := exists_fault_of_not_acceptable hp
    rw [hfault]
    simpa using hne h.text_ne_empty

/-- A path leads somewhere only through a directory that is there. -/
theorem stands_of_locate (h : p.Within dir name) (hp : t.locate p = .ok l) : t.Stands dir := by
  by_cases hdir : dir.text = ""
  · exact Or.inl hdir
  have hacc : p.Acceptable := acceptable_of_locate hp
  rw [locate_of_within h hacc] at hp
  obtain ⟨l₁, hwalk, hstep⟩ := walk_concat_eq_ok_iff.1 hp
  exact Or.inr ((isDir_iff_walk (h.acceptable hacc hdir)).2 ⟨l₁, hwalk, at?_of_step_eq_ok hstep⟩)

theorem stands_ground (hhere : t.at? t.here = some .directory)
    (h : dir.text = "" ∨ dir.text = "." ∨ dir.text = "/") : t.Stands dir := by
  obtain ⟨text⟩ := dir
  rcases h with rfl | rfl | rfl
  · exact Or.inl rfl
  · have hacc : Path.Acceptable ⟨"."⟩ := ⟨by decide, by decide, by decide⟩
    exact Or.inr ((isDir_iff_walk hacc).2 ⟨t.here, rfl, hhere⟩)
  · have hacc : Path.Acceptable ⟨"/"⟩ := ⟨by decide, by decide, by decide⟩
    exact Or.inr ((isDir_iff_walk hacc).2 ⟨[], rfl, at?_nil t⟩)

end Stands

section MakeDirsAgain

variable {outer : List Path} {fault : Fault}

theorem isDir_of_ensureDir (h : ensureDir dir t = (.ok (), t')) : t'.isDir dir = true := by
  unfold ensureDir at h
  split at h
  · cases h
  · next l hl =>
      split at h
      · next hfree =>
          obtain ⟨-, rfl⟩ := Prod.mk.inj h
          have hne : t.at? l ≠ some .directory := by simp [hfree]
          exact isDir_iff.2 ⟨l, (founds_set_directory hfree).locate_ok hl,
            at?_set_self t (ne_nil_of_at?_ne hne) _⟩
      · next hdir =>
          obtain ⟨-, rfl⟩ := Prod.mk.inj h
          exact isDir_iff.2 ⟨l, hl, hdir⟩
      · cases h

/-- A directory that cannot be made for another reason than a missing one around it cannot be made
later either. -/
theorem ensureDir_of_grows (h : ensureDir dir t = (.error fault, t₁))
    (hmissing : t.locate dir ≠ .error .notFound) (hgrows₁ : t₁.Grows t') :
    t'.locate dir ≠ .error .notFound ∧ ensureDir dir t' = (.error fault, t') := by
  have hensure := founds_ensureDir dir t
  rw [h] at hensure
  have hgrows : t.Grows t' := hensure.toGrows.trans hgrows₁
  have hlocate := hgrows.locate_eq hmissing
  refine ⟨hlocate ▸ hmissing, ?_⟩
  unfold ensureDir at h
  split at h
  · next fault' hfault =>
      obtain ⟨hfaults, -⟩ := Prod.mk.inj h
      obtain rfl := Except.error.inj hfaults
      simp only [ensureDir, hlocate, hfault]
  · next l hl =>
      split at h
      · cases h
      · cases h
      · next bytes hfile =>
          obtain ⟨hfaults, -⟩ := Prod.mk.inj h
          obtain rfl := Except.error.inj hfaults
          obtain ⟨bytes', hbytes⟩ := hgrows.file hfile
          simp only [ensureDir, hlocate, hl, hbytes]

theorem stands_of_makeDirs (h : (disk.makeDirs (dir :: outer)).run t = (.ok (), t')) :
    t'.Stands dir := by
  by_cases hdir : dir.text = ""
  · exact Or.inl hdir
  refine Or.inr ?_
  rw [run_makeDirs_cons hdir] at h
  split_ifs at h
  · generalize (disk.makeDirs outer).run t = made at h
    match made with
    | (.ok (), t₁) => exact isDir_of_ensureDir h
  · exact isDir_of_ensureDir h

/-- Nothing is to be made around a directory that is there. -/
theorem Stands.run_makeDirs (h : t.Stands dir) (outer : List Path) :
    (disk.makeDirs (dir :: outer)).run t = (.ok (), t) := by
  by_cases hdir : dir.text = ""
  · exact run_makeDirs_empty hdir outer t
  obtain ⟨l, hl, hat⟩ := isDir_iff.1 (h.resolve_left hdir)
  rw [run_makeDirs_cons hdir, if_neg (by simp [hl])]
  simp only [ensureDir, hl, hat]

/-- Directories that could not be made cannot be made in a tree that has grown since. -/
theorem makeDirs_fails_again {dirs : List Path} (hladder : Path.Ladder dirs)
    (hhere : t.at? t.here = some .directory)
    (h : (disk.makeDirs dirs).run t = (.error fault, t₁)) (hgrows : t₁.Grows t') :
    ∃ fault', (disk.makeDirs dirs).run t' = (.error fault', t') := by
  induction hladder generalizing t t₁ fault with
  | ground hground =>
      rw [(stands_ground hhere hground).run_makeDirs] at h
      cases h
  | @rung dir parent outer name hwithin hladder ih =>
      have hdir : dir.text ≠ "" := hwithin.text_ne_empty
      rw [run_makeDirs_cons hdir] at h ⊢
      split_ifs at h with hmissing
      · have hmade := founds_makeDirs (parent :: outer) t
        match houter : (disk.makeDirs (parent :: outer)).run t with
        | (.error fault', t₂) =>
            rw [houter] at h
            obtain ⟨-, rfl⟩ := Prod.mk.inj h
            obtain ⟨fault'', hagain⟩ := ih hhere houter hgrows
            rw [hagain]
            split_ifs
            · exact ⟨fault'', rfl⟩
            -- If the way to the directory were there now, the one around it could be made.
            · cases hlocate : t'.locate dir with
              | error fault₃ => exact ⟨fault₃, by simp only [ensureDir, hlocate]⟩
              | ok l =>
                  rw [(stands_of_locate hwithin hlocate).run_makeDirs] at hagain
                  cases hagain
        | (.ok (), t₂) =>
            rw [houter] at h hmade
            have hfound :=
              (stands_of_makeDirs houter).locate_ne_notFound (hmade.at?_here hhere) hwithin
            obtain ⟨hfound', hagain⟩ := ensureDir_of_grows h hfound hgrows
            rw [if_neg hfound', hagain]
            exact ⟨fault, rfl⟩
      · obtain ⟨hfound', hagain⟩ := ensureDir_of_grows h hmissing hgrows
        rw [if_neg hfound', hagain]
        exact ⟨fault, rfl⟩

end MakeDirsAgain

section PlaceAgain

variable {bytes : ByteArray} {answer : Except Fault Unit}

/-- The tree has become another one with the same directories. -/
structure Rewrites (t t' : FileTree) : Prop extends Grows t t' where
  directory_of : ∀ {l}, t'.at? l = some .directory → t.at? l = some .directory

theorem Rewrites.refl (t : FileTree) : t.Rewrites t := ⟨Grows.refl t, id⟩

theorem Rewrites.trans {t'' : FileTree} (h : t.Rewrites t') (h' : t'.Rewrites t'') :
    t.Rewrites t'' :=
  ⟨h.toGrows.trans h'.toGrows, fun hl => h.directory_of (h'.directory_of hl)⟩

theorem rewrites_set_file (h : t.at? l ≠ some .directory) (bytes : ByteArray) :
    t.Rewrites (t.set l (.file bytes)) := by
  refine ⟨grows_set_file h bytes, fun {other} hdir => ?_⟩
  rw [at?_set (ne_nil_of_at?_ne h)] at hdir
  split_ifs at hdir
  · cases hdir
  · exact hdir

theorem at?_eq_map_fileAt? (h : t.at? l ≠ some .directory) :
    t.at? l = (t.fileAt? l).map Entry.file := by
  rw [fileAt?]
  cases hl : t.at? l with
  | none => rfl
  | some e =>
      cases e with
      | file bytes => rfl
      | directory => exact absurd hl h

/-- A tree with the same directories and the same files is the same at every location. -/
theorem Rewrites.at?_eq (h : t.Rewrites t') (hfile : ∀ l, t'.fileAt? l = t.fileAt? l)
    (l : Location) : t'.at? l = t.at? l := by
  by_cases hdir : t.at? l = some .directory
  · rw [hdir, h.directory hdir]
  · have hdir' : t'.at? l ≠ some .directory := fun hl => hdir (h.directory_of hl)
    rw [at?_eq_map_fileAt? hdir, at?_eq_map_fileAt? hdir', hfile]

theorem grows_overwrite (h : overwrite p bytes t = (answer, t')) : t.Grows t' := by
  rcases overwrite_cases p bytes t with ⟨fault, h'⟩ | ⟨l, h', -, hl⟩
  · obtain ⟨-, rfl⟩ := Prod.mk.inj (h.symm.trans h')
    exact Grows.refl _
  · obtain ⟨-, rfl⟩ := Prod.mk.inj (h.symm.trans h')
    exact grows_set_file hl bytes

theorem overwrite_again (h : overwrite p bytes t = (answer, t₁))
    (hfound : t.locate p ≠ .error .notFound) (hgrows : t₁.Grows t') :
    ∃ answer' t'', overwrite p bytes t' = (answer', t'') ∧ answer'.isOk = answer.isOk ∧
      t'.Rewrites t'' := by
  have hgrows' : t.Grows t' := (grows_overwrite h).trans hgrows
  cases hp : t.locate p with
  | error fault =>
      rw [overwrite_of_error bytes hp] at h
      obtain ⟨rfl, rfl⟩ := Prod.mk.inj h
      have hp' : t'.locate p = .error fault := (hgrows'.locate_eq hfound).trans hp
      exact ⟨_, _, overwrite_of_error bytes hp', rfl, Rewrites.refl t'⟩
  | ok l =>
      have hp' : t'.locate p = .ok l := hgrows'.locate_ok hp
      by_cases hl : t.at? l = some .directory
      · rw [overwrite_of_directory bytes hp hl] at h
        obtain ⟨rfl, rfl⟩ := Prod.mk.inj h
        exact ⟨_, _, overwrite_of_directory bytes hp' (hgrows'.directory hl), rfl,
          Rewrites.refl t'⟩
      · rw [overwrite_of_ne bytes hp hl] at h
        obtain ⟨rfl, rfl⟩ := Prod.mk.inj h
        -- The first write has left a file there.
        obtain ⟨bytes', hfile⟩ := hgrows.file (at?_set_self t (ne_nil_of_at?_ne hl) _)
        have hl' : t'.at? l ≠ some .directory := by simp [hfile]
        exact ⟨_, _, overwrite_of_ne bytes hp' hl', rfl, rewrites_set_file hl' bytes⟩

/-- A file that was put in place can be put there again, and one that was not still cannot. No
directory is made for it. -/
theorem place_again (hp : p.Grounded) (hhere : t.at? t.here = some .directory)
    (h : (disk.place p bytes).run t = (answer, t₁)) (hgrows : t₁.Grows t') :
    ∃ answer' t'', (disk.place p bytes).run t' = (answer', t'') ∧ answer'.isOk = answer.isOk ∧
      t'.Rewrites t'' := by
  obtain ⟨dir, outer, name, henclosing, hladder, hwithin⟩ := hp
  rw [run_place_of_enclosing bytes _ henclosing] at h ⊢
  have hmade := founds_makeDirs (dir :: outer) t
  match hdirs : (disk.makeDirs (dir :: outer)).run t with
  | (.error fault, t₂) =>
      rw [hdirs] at h
      obtain ⟨rfl, rfl⟩ := Prod.mk.inj h
      obtain ⟨fault', hagain⟩ := makeDirs_fails_again hladder hhere hdirs hgrows
      rw [hagain]
      exact ⟨_, _, rfl, rfl, Rewrites.refl t'⟩
  | (.ok (), t₂) =>
      rw [hdirs] at h hmade
      have hstands : t₂.Stands dir := stands_of_makeDirs hdirs
      have hgrows₂ : t₂.Grows t' := (grows_overwrite h).trans hgrows
      rw [(hgrows₂.stands hstands).run_makeDirs]
      exact overwrite_again h (hstands.locate_ne_notFound (hmade.at?_here hhere) hwithin) hgrows

theorem sink_again {content : String} {answer : Except WriteError Unit} (hp : p.Grounded)
    (hhere : t.at? t.here = some .directory) (h : (disk.sink p content).run t = (answer, t₁))
    (hgrows : t₁.Grows t') :
    ∃ answer' t'', (disk.sink p content).run t' = (answer', t'') ∧ answer'.isOk = answer.isOk ∧
      t'.Rewrites t'' := by
  obtain ⟨placed, t₂, hplace⟩ : ∃ placed t₂,
      (disk.place p content.toUTF8).run t = (placed, t₂) := ⟨_, _, rfl⟩
  rw [run_sink, hplace] at h
  rw [run_sink]
  cases placed with
  | ok u =>
      obtain ⟨rfl, rfl⟩ := Prod.mk.inj h
      obtain ⟨placed', t'', hagain, hsame, hrewrites⟩ := place_again hp hhere hplace hgrows
      rw [hagain]
      cases placed' with
      | ok u => exact ⟨_, t'', rfl, rfl, hrewrites⟩
      | error fault => cases hsame
  | error fault =>
      obtain ⟨rfl, rfl⟩ := Prod.mk.inj h
      obtain ⟨placed', t'', hagain, hsame, hrewrites⟩ := place_again hp hhere hplace hgrows
      rw [hagain]
      cases placed' with
      | ok u => cases hsame
      | error fault' => exact ⟨_, t'', rfl, rfl, hrewrites⟩

end PlaceAgain

end FileTree

/-- An artifact and whether the sink took it. -/
def Delivery.verdict (d : Delivery) : Artifact × Bool := (d.artifact, d.isAccepted)

namespace FileTree

section DeliverAgain

variable {t t₁ t' : FileTree} {as : List Artifact} {ds : List Delivery}

theorem deliver_again (has : ∀ a ∈ as, a.path.Grounded) (hhere : t.at? t.here = some .directory)
    (h : (deliver disk.sink as).run t = (ds, t₁)) (hgrows : t₁.Grows t') :
    ∃ ds' t'', (deliver disk.sink as).run t' = (ds', t'') ∧
      ds'.map Delivery.verdict = ds.map Delivery.verdict ∧ t'.Rewrites t'' := by
  induction as generalizing t t' ds with
  | nil =>
      obtain ⟨rfl, rfl⟩ := Prod.mk.inj h
      exact ⟨[], t', rfl, rfl, Rewrites.refl t'⟩
  | cons a as ih =>
      obtain ⟨answer, t₂, rest, hsink, hrest, rfl⟩ := (run_deliver_cons_eq_iff _).1 h
      have hgrows₂ : t₂.Grows t' := (grows_deliver hrest).trans hgrows
      obtain ⟨answer', t'₂, hsink', hsame, hrewrites⟩ :=
        sink_again (has a List.mem_cons_self) hhere hsink hgrows₂
      obtain ⟨rest', t'', hrest', hverdicts, hrewrites'⟩ :=
        ih (fun a ha => has a (List.mem_cons_of_mem _ ha)) ((grows_sink hsink).at?_here hhere) hrest
          (hgrows.trans hrewrites.toGrows)
      have hall := (run_deliver_cons_eq_iff _).2 ⟨_, _, _, hsink', hrest', rfl⟩
      refine ⟨⟨a, answer'⟩ :: rest', t'', hall, ?_, hrewrites.trans hrewrites'⟩
      rw [List.map_cons, List.map_cons, hverdicts]
      exact congrArg (fun accepted => (a, accepted) :: _) hsame

theorem lastWriter?_eq_of_verdict {ds' : List Delivery} (l : Location)
    (hverdicts : ds'.map Delivery.verdict = ds.map Delivery.verdict)
    (hlocate : ∀ d ∈ ds, d.isAccepted = true →
      t'.locate d.artifact.path = t.locate d.artifact.path) :
    (t'.lastWriter? ds' l).map (·.artifact) = (t.lastWriter? ds l).map (·.artifact) := by
  have hmap : ∀ (t : FileTree) (ds : List Delivery), (t.lastWriter? ds l).map (·.artifact) =
      ((ds.map Delivery.verdict).reverse.find? fun v =>
        v.2 && decide (t.locate v.1.path = .ok l)).map Prod.fst := by
    intro t ds
    rw [← List.map_reverse, List.find?_map, Option.map_map]
    rfl
  rw [hmap, hmap, hverdicts]
  congr 1
  refine List.find?_congr fun v hv => ?_
  obtain ⟨d, hd, rfl⟩ := List.mem_map.1 (List.mem_reverse.1 hv)
  cases hacc : d.isAccepted with
  | false => simp [Delivery.verdict, hacc]
  | true => simp [Delivery.verdict, hacc, hlocate d hd hacc]

/-- A second delivery of the same artifacts is taken as the first was, and it changes nothing. -/
theorem deliver_twice (has : ∀ a ∈ as, a.path.Grounded) (hhere : t.at? t.here = some .directory)
    (h : (deliver disk.sink as).run t = (ds, t₁)) :
    ∃ ds' t₂, (deliver disk.sink as).run t₁ = (ds', t₂) ∧
      ds'.map Delivery.verdict = ds.map Delivery.verdict ∧ ∀ l, t₂.at? l = t₁.at? l := by
  obtain ⟨ds', t₂, hagain, hverdicts, hrewrites⟩ := deliver_again has hhere h (Grows.refl t₁)
  refine ⟨ds', t₂, hagain, hverdicts, hrewrites.at?_eq fun l => ?_⟩
  have hlocate : ∀ d ∈ ds, d.isAccepted = true →
      t₂.locate d.artifact.path = t₁.locate d.artifact.path := by
    intro d hd hacc
    obtain ⟨l', hl'⟩ := exists_locate_of_accepted h hd hacc
    rw [hl', hrewrites.locate_ok hl']
  have hwriter : (t₂.lastWriter? ds' l).map (·.artifact.content.toUTF8) =
      (t₁.lastWriter? ds l).map (·.artifact.content.toUTF8) := by
    have hartifact := lastWriter?_eq_of_verdict l hverdicts hlocate
    simpa [Function.comp_def] using congrArg (Option.map (·.content.toUTF8)) hartifact
  rw [fileAt?_deliver hagain, fileAt?_deliver h, hwriter, ← Option.or_assoc, Option.or_self]

end DeliverAgain

end FileTree

end SchemaScribe

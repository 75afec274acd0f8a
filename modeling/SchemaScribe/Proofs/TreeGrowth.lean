import SchemaScribe.FileTree
import SchemaScribe.Proofs.SinkAnswers

/-!
# Trees grow

Writing files into a tree never removes anything: directories stay directories, and files stay
files, with other bytes at most. So a path that leads somewhere goes on leading there. Making
directories changes no file at all, and putting a file in place changes that file only.
-/
namespace SchemaScribe

/-- A path that is walked at all. -/
structure Path.Acceptable (p : Path) : Prop where
  no_nul : '\x00' ∉ p.text.toList
  ne_empty : p.text ≠ ""
  not_long : p.text.utf8ByteSize ≤ FileTree.longestPath

namespace FileTree

variable {t t' t'' : FileTree} {l other : Location} {p dir : Path}

/-- The bytes of the file at a location. -/
def fileAt? (t : FileTree) (l : Location) : Option ByteArray :=
  match t.at? l with
  | some (.file bytes) => some bytes
  | _ => none

/-- The tree has become another one, in which whatever was there is still of its kind. -/
structure Grows (t t' : FileTree) : Prop where
  here_eq : t'.here = t.here
  directory : ∀ {l}, t.at? l = some .directory → t'.at? l = some .directory
  file : ∀ {l bytes}, t.at? l = some (.file bytes) → ∃ bytes', t'.at? l = some (.file bytes')

/-- The tree has grown by directories alone. -/
structure Founds (t t' : FileTree) : Prop extends Grows t t' where
  fileAt?_eq : ∀ l, t'.fileAt? l = t.fileAt? l

theorem Grows.refl (t : FileTree) : t.Grows t := ⟨rfl, id, fun h => ⟨_, h⟩⟩

theorem Grows.trans (h : t.Grows t') (h' : t'.Grows t'') : t.Grows t'' where
  here_eq := h'.here_eq.trans h.here_eq
  directory hl := h'.directory (h.directory hl)
  file hl := by
    obtain ⟨bytes, hbytes⟩ := h.file hl
    exact h'.file hbytes

/-- A working directory goes on being one. -/
theorem Grows.at?_here (h : t.Grows t') (hhere : t.at? t.here = some .directory) :
    t'.at? t'.here = some .directory := by
  rw [h.here_eq]
  exact h.directory hhere

theorem Founds.refl (t : FileTree) : t.Founds t := ⟨Grows.refl t, fun _ => rfl⟩

theorem Founds.trans (h : t.Founds t') (h' : t'.Founds t'') : t.Founds t'' :=
  ⟨h.toGrows.trans h'.toGrows, fun l => (h'.fileAt?_eq l).trans (h.fileAt?_eq l)⟩

section Set

variable {e : Entry} {bytes : ByteArray}

theorem at?_nil (t : FileTree) : t.at? [] = some .directory := rfl

theorem at?_set (hl : l ≠ []) (e : Entry) :
    (t.set l e).at? other = if other = l then some e else t.at? other := by
  split_ifs with h
  · rw [h, at?_set_self t hl]
  · exact at?_set_of_ne t h e

theorem ne_nil_of_at?_ne (h : t.at? l ≠ some .directory) : l ≠ [] := by
  rintro rfl
  exact h (at?_nil t)

theorem founds_set_directory (h : t.at? l = none) : t.Founds (t.set l .directory) := by
  have hfree : t.at? l ≠ some .directory := by simp [h]
  have hl : l ≠ [] := ne_nil_of_at?_ne hfree
  have hother : ∀ other, t.at? other ≠ none → (t.set l .directory).at? other = t.at? other := by
    intro other hsome
    have hne : other ≠ l := fun heq => hsome (heq ▸ h)
    exact at?_set_of_ne t hne _
  refine ⟨⟨rfl, fun hdir => ?_, fun {_ bytes} hfile => ⟨bytes, ?_⟩⟩, fun other => ?_⟩
  · rw [hother _ (by simp [hdir]), hdir]
  · rw [hother _ (by simp [hfile]), hfile]
  · rw [fileAt?, fileAt?, at?_set hl]
    split_ifs with heq
    · rw [heq, h]
    · rfl

theorem grows_set_file (h : t.at? l ≠ some .directory) (bytes : ByteArray) :
    t.Grows (t.set l (.file bytes)) := by
  have hset : ∀ other, (t.set l (.file bytes)).at? other =
      if other = l then some (.file bytes) else t.at? other :=
    fun other => at?_set (ne_nil_of_at?_ne h) _
  refine ⟨rfl, fun {other} hdir => ?_, fun {other _} hfile => ?_⟩
  · have hne : other ≠ l := fun heq => h (heq ▸ hdir)
    rw [hset, if_neg hne, hdir]
  · rw [hset]
    split_ifs with heq
    · exact ⟨_, rfl⟩
    · exact ⟨_, hfile⟩

theorem fileAt?_set_file (h : t.at? l ≠ some .directory) (bytes : ByteArray) :
    (t.set l (.file bytes)).fileAt? other =
      if l = other then some bytes else t.fileAt? other := by
  rw [fileAt?, at?_set (ne_nil_of_at?_ne h)]
  by_cases heq : l = other
  · rw [if_pos heq.symm, if_pos heq]
  · rw [if_neg (Ne.symm heq), if_neg heq, fileAt?]

end Set

section Locate

/-- Growing mends no other fault than a missing entry. -/
theorem Grows.step_eq (h : t.Grows t') {segment : String}
    (hstep : t.step l segment ≠ .error .notFound) : t'.step l segment = t.step l segment := by
  match hl : t.at? l with
  | none => exact absurd (by rw [step, hl]) hstep
  | some .directory => rw [step, step, hl, h.directory hl]
  | some (.file bytes) =>
      obtain ⟨bytes', hbytes⟩ := h.file hl
      rw [step, step, hl, hbytes]

theorem Grows.walk_eq (h : t.Grows t') {segments : List String}
    (hwalk : segments.foldlM t.step l ≠ .error .notFound) :
    segments.foldlM t'.step l = segments.foldlM t.step l := by
  induction segments generalizing l with
  | nil => rfl
  | cons segment segments ih =>
      rw [List.foldlM_cons] at hwalk
      have hstep : t.step l segment ≠ .error .notFound := by
        intro heq
        rw [heq] at hwalk
        exact hwalk rfl
      rw [List.foldlM_cons, List.foldlM_cons, h.step_eq hstep]
      cases hl : t.step l segment with
      | error fault => rfl
      | ok l' =>
          rw [hl] at hwalk
          exact ih hwalk

/-- Where the walk along a path starts. -/
def start (t : FileTree) (p : Path) : Location := if p.isAbsolute then [] else t.here

theorem locate_of_acceptable (h : p.Acceptable) (t : FileTree) :
    t.locate p = p.segments.foldlM t.step (t.start p) := by
  have hnul : p.text.toList.contains '\x00' = false := by simpa using h.no_nul
  rw [locate, hnul, if_neg Bool.false_ne_true, if_neg h.ne_empty, if_neg h.not_long.not_gt, start]

/-- What is wrong with a path itself is wrong in every tree. -/
theorem exists_fault_of_not_acceptable (h : ¬p.Acceptable) :
    ∃ fault, (p.text ≠ "" → fault ≠ .notFound) ∧ ∀ t : FileTree, t.locate p = .error fault := by
  by_cases hnul : p.text.toList.contains '\x00' = true
  · exact ⟨.nulInName, by simp, fun t => by rw [locate, if_pos hnul]⟩
  by_cases hempty : p.text = ""
  · exact ⟨.notFound, by simp [hempty], fun t => by rw [locate, if_neg hnul, if_pos hempty]⟩
  by_cases hlong : longestPath < p.text.utf8ByteSize
  · exact ⟨.nameTooLong, by simp,
      fun t => by rw [locate, if_neg hnul, if_neg hempty, if_pos hlong]⟩
  exact absurd ⟨by simpa using hnul, hempty, Nat.le_of_not_lt hlong⟩ h

theorem acceptable_of_locate (h : t.locate p = .ok l) : p.Acceptable := by
  by_contra hacc
  obtain ⟨fault, -, hfault⟩ := exists_fault_of_not_acceptable hacc
  simp [hfault] at h

theorem Grows.locate_eq (h : t.Grows t') (hp : t.locate p ≠ .error .notFound) :
    t'.locate p = t.locate p := by
  by_cases hacc : p.Acceptable
  · rw [locate_of_acceptable hacc] at hp
    rw [locate_of_acceptable hacc, locate_of_acceptable hacc, start, h.here_eq]
    exact h.walk_eq hp
  · obtain ⟨fault, -, hfault⟩ := exists_fault_of_not_acceptable hacc
    rw [hfault, hfault]

theorem Grows.locate_ok (h : t.Grows t') (hp : t.locate p = .ok l) : t'.locate p = .ok l := by
  rw [h.locate_eq (by simp [hp]), hp]

theorem isDir_iff : t.isDir p = true ↔ ∃ l, t.locate p = .ok l ∧ t.at? l = some .directory := by
  unfold isDir
  cases hp : t.locate p with
  | error fault => simp
  | ok l =>
      match hl : t.at? l with
      | none => simp [hl]
      | some .directory => simp [hl]
      | some (.file bytes) => simp [hl]

theorem Grows.isDir (h : t.Grows t') (hp : t.isDir p = true) : t'.isDir p = true := by
  obtain ⟨l, hl, hdir⟩ := isDir_iff.1 hp
  exact isDir_iff.2 ⟨l, h.locate_ok hl, h.directory hdir⟩

end Locate

section MakeDirs

/-- Makes a directory, unless it is there. -/
def ensureDir (dir : Path) (t : FileTree) : Except Fault Unit × FileTree :=
  match t.locate dir with
  | .error fault => (.error fault, t)
  | .ok l =>
      match t.at? l with
      | none => (.ok (), t.set l .directory)
      | some .directory => (.ok (), t)
      | some (.file _) => (.error .alreadyExists, t)

theorem run_bind {α β : Type} (act : StateM FileTree α) (next : α → StateM FileTree β)
    (t : FileTree) : (act >>= next).run t = (next (act.run t).1).run (act.run t).2 := rfl

theorem makeDir_of_error {fault : Fault} (h : t.locate dir = .error fault) :
    (disk.makeDir dir).run t = (.error fault, t) := by
  change makeDir dir t = _
  simp only [makeDir, h]

theorem makeDir_of_free (h : t.locate dir = .ok l) (hl : t.at? l = none) :
    (disk.makeDir dir).run t = (.ok (), t.set l .directory) := by
  change makeDir dir t = _
  simp only [makeDir, h, hl]

theorem makeDir_of_taken {e : Entry} (h : t.locate dir = .ok l) (hl : t.at? l = some e) :
    (disk.makeDir dir).run t = (.error .alreadyExists, t) := by
  change makeDir dir t = _
  simp only [makeDir, h, hl]

theorem run_settle (fault : Fault) :
    (disk.settle dir fault).run t = (if t.isDir dir = true then .ok () else .error fault, t) := by
  change (if t.isDir dir = true then pure _ else pure _ : StateM FileTree _).run t = _
  split_ifs <;> rfl

/-- To make a directory, and to look for it after a failure, is to ensure that it is there. -/
theorem run_makeDir_settle (dir : Path) (t : FileTree) :
    (disk.makeDir dir >>= fun made =>
      match made with
      | .ok () => pure (.ok ())
      | .error fault => disk.settle dir fault).run t = ensureDir dir t := by
  rw [run_bind]
  cases hdir : t.locate dir with
  | error fault =>
      have hno : ¬t.isDir dir = true := by simp [isDir_iff, hdir]
      simp only [makeDir_of_error hdir, run_settle, if_neg hno, ensureDir, hdir]
  | ok l =>
      match hl : t.at? l with
      | none =>
          simp only [makeDir_of_free hdir hl, ensureDir, hdir, hl]
          rfl
      | some .directory =>
          have hyes : t.isDir dir = true := isDir_iff.2 ⟨l, hdir, hl⟩
          simp only [makeDir_of_taken hdir hl, run_settle, if_pos hyes, ensureDir, hdir, hl]
      | some (.file bytes) =>
          have hno : ¬t.isDir dir = true := by simp [isDir_iff, hdir, hl]
          simp only [makeDir_of_taken hdir hl, run_settle, if_neg hno, ensureDir, hdir, hl]

theorem run_makeDirs_empty (hdir : dir.text = "") (outer : List Path) (t : FileTree) :
    (disk.makeDirs (dir :: outer)).run t = (.ok (), t) := by
  rw [Disk.makeDirs, if_pos hdir]
  rfl

/-- The directories around one are made only if the way to it is missing. -/
theorem run_makeDirs_cons (hdir : dir.text ≠ "") (outer : List Path) (t : FileTree) :
    (disk.makeDirs (dir :: outer)).run t =
      if t.locate dir = .error .notFound then
        match (disk.makeDirs outer).run t with
        | (.ok (), t') => ensureDir dir t'
        | (.error fault, t') => (.error fault, t')
      else ensureDir dir t := by
  rw [Disk.makeDirs, if_neg hdir, run_bind]
  split_ifs with hmissing
  · rw [makeDir_of_error hmissing]
    dsimp only
    rw [run_bind]
    match (disk.makeDirs outer).run t with
    | (.ok (), t') => exact run_makeDir_settle dir t'
    | (.error fault, t') => rfl
  · rw [← run_makeDir_settle, run_bind]
    -- Any answer but a missing entry goes the same way on both sides.
    cases hlocate : t.locate dir with
    | error fault =>
        rw [makeDir_of_error hlocate]
        cases fault with
        | notFound => exact absurd hlocate hmissing
        | _ => rfl
    | ok l =>
        cases hl : t.at? l with
        | none => rw [makeDir_of_free hlocate hl]
        | some e => rw [makeDir_of_taken hlocate hl]

theorem founds_ensureDir (dir : Path) (t : FileTree) : t.Founds (ensureDir dir t).2 := by
  unfold ensureDir
  split
  · exact Founds.refl t
  · split
    · exact founds_set_directory ‹_›
    · exact Founds.refl t
    · exact Founds.refl t

theorem founds_makeDirs (dirs : List Path) (t : FileTree) :
    t.Founds ((disk.makeDirs dirs).run t).2 := by
  induction dirs generalizing t with
  | nil => exact Founds.refl t
  | cons dir outer ih =>
      by_cases hdir : dir.text = ""
      · rw [run_makeDirs_empty hdir]
        exact Founds.refl t
      rw [run_makeDirs_cons hdir]
      split_ifs
      · have houter := ih t
        generalize (disk.makeDirs outer).run t = made at houter
        match made with
        | (.ok (), t') => exact houter.trans (founds_ensureDir dir t')
        | (.error fault, t') => exact houter
      · exact founds_ensureDir dir t

end MakeDirs

section Place

variable (p : Path) (bytes : ByteArray) (t : FileTree)

variable {p t} in
theorem overwrite_of_error {fault : Fault} (hp : t.locate p = .error fault) :
    overwrite p bytes t = (.error fault, t) := by
  simp only [overwrite, hp]

variable {p t} in
theorem overwrite_of_directory (hp : t.locate p = .ok l) (hl : t.at? l = some .directory) :
    overwrite p bytes t = (.error .isDirectory, t) := by
  simp only [overwrite, hp, hl]

variable {p t} in
theorem overwrite_of_ne (hp : t.locate p = .ok l) (hl : t.at? l ≠ some .directory) :
    overwrite p bytes t = (.ok (), t.set l (.file bytes)) := by
  match hat : t.at? l with
  | none => simp only [overwrite, hp, hat]
  | some .directory => exact absurd hat hl
  | some (.file _) => simp only [overwrite, hp, hat]

/-- A file is overwritten where its path leads, or nothing is done. -/
theorem overwrite_cases :
    (∃ fault, overwrite p bytes t = (.error fault, t)) ∨
    ∃ l, overwrite p bytes t = (.ok (), t.set l (.file bytes)) ∧ t.locate p = .ok l ∧
      t.at? l ≠ some .directory := by
  cases hp : t.locate p with
  | error fault => exact Or.inl ⟨fault, overwrite_of_error bytes hp⟩
  | ok l =>
      by_cases hl : t.at? l = some .directory
      · exact Or.inl ⟨.isDirectory, overwrite_of_directory bytes hp hl⟩
      · exact Or.inr ⟨l, overwrite_of_ne bytes hp hl, rfl, hl⟩

variable {p} in
theorem run_place_of_enclosing {outer : List Path} (h : p.enclosing = dir :: outer) :
    (disk.place p bytes).run t =
      match (disk.makeDirs (dir :: outer)).run t with
      | (.error fault, t') => (.error fault, t')
      | (.ok (), t') => overwrite p bytes t' := by
  simp only [Disk.place, h]
  rw [run_bind]
  match (disk.makeDirs (dir :: outer)).run t with
  | (.error fault, t') => rfl
  | (.ok (), t') => rfl

/-- A file is put in place behind new directories, or nothing but directories is made. -/
theorem run_place_cases :
    (∃ fault t', (disk.place p bytes).run t = (.error fault, t') ∧ t.Founds t') ∨
    ∃ l t', (disk.place p bytes).run t = (.ok (), t'.set l (.file bytes)) ∧ t.Founds t' ∧
      t'.locate p = .ok l ∧ t'.at? l ≠ some .directory := by
  have hover : ∀ t', t.Founds t' →
      (∃ fault t'', overwrite p bytes t' = (.error fault, t'') ∧ t.Founds t'') ∨
      ∃ l t'', overwrite p bytes t' = (.ok (), t''.set l (.file bytes)) ∧ t.Founds t'' ∧
        t''.locate p = .ok l ∧ t''.at? l ≠ some .directory := by
    intro t' hfounds
    rcases overwrite_cases p bytes t' with ⟨fault, h⟩ | ⟨l, h, hl, hfree⟩
    · exact Or.inl ⟨fault, t', h, hfounds⟩
    · exact Or.inr ⟨l, t', h, hfounds, hl, hfree⟩
  cases henclosing : p.enclosing with
  | nil =>
      have hplace : (disk.place p bytes).run t = overwrite p bytes t := by
        simp only [Disk.place, henclosing]
        rfl
      rw [hplace]
      exact hover t (Founds.refl t)
  | cons dir outer =>
      have hmade := founds_makeDirs (dir :: outer) t
      rw [run_place_of_enclosing bytes t henclosing]
      generalize (disk.makeDirs (dir :: outer)).run t = made at hmade
      match made with
      | (.error fault, t') => exact Or.inl ⟨fault, t', rfl, hmade⟩
      | (.ok (), t') => exact hover t' hmade

end Place

section Deliver

theorem run_sink (p : Path) (content : String) (t : FileTree) :
    (disk.sink p content).run t =
      match (disk.place p content.toUTF8).run t with
      | (.ok (), t') => (.ok (), t')
      | (.error fault, t') =>
          (.error ⟨"failed to write '" ++ p.text ++ "'", [fault.message]⟩, t') := by
  unfold Disk.sink
  rw [run_bind]
  match (disk.place p content.toUTF8).run t with
  | (.ok (), t') => rfl
  | (.error fault, t') => rfl

/-- An artifact changes the file that its path leads to if it is accepted, and no file if not. -/
theorem run_sink_cases (p : Path) (content : String) (t : FileTree) :
    (∃ e t', (disk.sink p content).run t = (.error e, t') ∧ t.Founds t') ∨
    ∃ l t', (disk.sink p content).run t = (.ok (), t') ∧ t.Grows t' ∧ t'.locate p = .ok l ∧
      ∀ other, t'.fileAt? other =
        if l = other then some content.toUTF8 else t.fileAt? other := by
  rw [run_sink]
  rcases run_place_cases p content.toUTF8 t with
    ⟨fault, t', h, hfounds⟩ | ⟨l, t', h, hfounds, hl, hfree⟩
  · exact Or.inl ⟨_, t', by rw [h], hfounds⟩
  · have hgrows := grows_set_file hfree content.toUTF8
    refine Or.inr ⟨l, _, by rw [h], hfounds.toGrows.trans hgrows, hgrows.locate_ok hl, ?_⟩
    intro other
    rw [fileAt?_set_file hfree, hfounds.fileAt?_eq]

theorem grows_sink {p : Path} {content : String} {answer : Except WriteError Unit}
    (h : (disk.sink p content).run t = (answer, t')) : t.Grows t' := by
  rcases run_sink_cases p content t with ⟨e, t₁, h', hfounds⟩ | ⟨l, t₁, h', hgrows, -⟩
  · obtain ⟨-, rfl⟩ := Prod.mk.inj (h.symm.trans h')
    exact hfounds.toGrows
  · obtain ⟨-, rfl⟩ := Prod.mk.inj (h.symm.trans h')
    exact hgrows

theorem grows_deliver {as : List Artifact} {ds : List Delivery}
    (h : (deliver disk.sink as).run t = (ds, t')) : t.Grows t' := by
  induction as generalizing t ds with
  | nil =>
      obtain ⟨-, rfl⟩ := Prod.mk.inj h
      exact Grows.refl t
  | cons a as ih =>
      obtain ⟨answer, t₁, rest, hsink, hrest, -⟩ := (run_deliver_cons_eq_iff _).1 h
      exact (grows_sink hsink).trans (ih hrest)

/-- The path of an accepted artifact leads to a file. -/
theorem exists_locate_of_accepted {as : List Artifact} {ds : List Delivery}
    (h : (deliver disk.sink as).run t = (ds, t')) {d : Delivery} (hd : d ∈ ds)
    (hacc : d.isAccepted = true) : ∃ l, t'.locate d.artifact.path = .ok l := by
  induction as generalizing t ds with
  | nil =>
      obtain ⟨rfl, -⟩ := Prod.mk.inj h
      exact absurd hd List.not_mem_nil
  | cons a as ih =>
      obtain ⟨answer, t₁, rest, hsink, hrest, rfl⟩ := (run_deliver_cons_eq_iff _).1 h
      rcases List.mem_cons.1 hd with rfl | hd
      · rcases run_sink_cases a.path a.content t with ⟨e, t₂, h', -⟩ | ⟨l, t₂, h', -, hl, -⟩
        · obtain ⟨rfl, rfl⟩ := Prod.mk.inj (hsink.symm.trans h')
          cases hacc
        · obtain ⟨rfl, rfl⟩ := Prod.mk.inj (hsink.symm.trans h')
          exact ⟨l, (grows_deliver hrest).locate_ok hl⟩
      · exact ih hrest hd

/-- The last of some deliveries that put a file at a location of the tree. -/
def lastWriter? (t : FileTree) (ds : List Delivery) (l : Location) : Option Delivery :=
  ds.reverse.find? fun d => d.isAccepted && decide (t.locate d.artifact.path = .ok l)

theorem lastWriter?_cons (t : FileTree) (d : Delivery) (ds : List Delivery) (l : Location) :
    t.lastWriter? (d :: ds) l =
      (t.lastWriter? ds l).or
        (if d.isAccepted = true ∧ t.locate d.artifact.path = .ok l then some d else none) := by
  rw [lastWriter?, List.reverse_cons, List.find?_append, ← lastWriter?, List.find?_singleton]
  simp

/-- After some deliveries every file has the content of its last writer, or its old bytes if it has
none. -/
theorem fileAt?_deliver {as : List Artifact} {ds : List Delivery}
    (h : (deliver disk.sink as).run t = (ds, t')) (l : Location) :
    t'.fileAt? l = ((t'.lastWriter? ds l).map (·.artifact.content.toUTF8)).or (t.fileAt? l) := by
  induction as generalizing t ds with
  | nil =>
      obtain ⟨rfl, rfl⟩ := Prod.mk.inj h
      rfl
  | cons a as ih =>
      obtain ⟨answer, t₁, rest, hsink, hrest, rfl⟩ := (run_deliver_cons_eq_iff _).1 h
      rw [ih hrest, lastWriter?_cons]
      rcases run_sink_cases a.path a.content t with
        ⟨e, t₂, h', hfounds⟩ | ⟨l', t₂, h', -, hl', hfile⟩
      · obtain ⟨rfl, rfl⟩ := Prod.mk.inj (hsink.symm.trans h')
        rw [hfounds.fileAt?_eq, if_neg (by simp), Option.or_none]
      · obtain ⟨rfl, rfl⟩ := Prod.mk.inj (hsink.symm.trans h')
        have hpath : t'.locate a.path = .ok l' := (grows_deliver hrest).locate_ok hl'
        rw [hfile, hpath, Option.map_or, Option.or_assoc]
        by_cases heq : l' = l
        · simp [heq]
        · simp [heq]

end Deliver

end FileTree

end SchemaScribe

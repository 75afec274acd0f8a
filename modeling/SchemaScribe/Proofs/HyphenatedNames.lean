import SchemaScribe.Proofs.ArtifactPaths

/-!
# The hyphenated form

The hyphenated form is made in one pass that remembers a single character. It is also given by three
laws. The form of two texts in a row is that of each, with a hyphen at the seam where a plain lower
case letter meets a plain upper case one. Without its hyphens the form is the lower case of the text
without its own. And the form is its own form: no character that lower case leads to is changed by
lower case once more, so nothing in it starts a new part. Hence file names keep records apart whose
names differ in more than case.
-/
namespace SchemaScribe

namespace Unicode

namespace CaseRun

theorem image?_eq_some_iff {run : CaseRun} {n m : Nat} :
    run.image? n = some m ↔ run.first ≤ n ∧ n ≤ run.last ∧ (n - run.first) % run.step = 0 ∧
      m = run.target + (n - run.first) := by
  rw [image?]
  split_ifs with h
  · simp only [Bool.and_eq_true, decide_eq_true_eq, beq_iff_eq] at h
    simp only [h, true_and, Option.some.injEq, eq_comm]
  · simp only [Bool.and_eq_true, decide_eq_true_eq, beq_iff_eq] at h
    simp only [false_iff]
    rintro ⟨hfirst, hlast, hstep, -⟩
    exact h ⟨⟨hfirst, hlast⟩, hstep⟩

/-- The first multiples of a step, as a set of bits. -/
def comb (step : Nat) : Nat → Nat
  | 0 => 0
  | count + 1 => comb step count <<< step ||| 1

theorem testBit_comb {step count i : Nat} (h : i < count) :
    (comb step count).testBit (i * step) = true := by
  induction count generalizing i with
  | zero => exact absurd h (Nat.not_lt_zero i)
  | succ count ih =>
      rw [comb, Nat.testBit_or, Nat.testBit_shiftLeft]
      cases i with
      | zero => simp
      | succ i =>
          have hback : (i + 1) * step - step = i * step := by rw [Nat.succ_mul, Nat.add_sub_cancel]
          have hle : step ≤ (i + 1) * step := Nat.le_mul_of_pos_left step i.succ_pos
          rw [hback, ih (Nat.lt_of_succ_lt_succ h)]
          simp [hle]

/-- As many code points as the run has, in its steps, from a given one on. -/
def pointsFrom (run : CaseRun) (start : Nat) : Nat :=
  comb run.step ((run.last - run.first) / run.step + 1) <<< start

theorem testBit_pointsFrom {run : CaseRun} {n m : Nat} (h : run.image? n = some m) (start : Nat) :
    (run.pointsFrom start).testBit (start + (n - run.first)) = true := by
  obtain ⟨-, hlast, hstep, -⟩ := image?_eq_some_iff.1 h
  have hcount : (n - run.first) / run.step < (run.last - run.first) / run.step + 1 :=
    Nat.lt_succ_of_le (Nat.div_le_div_right (Nat.sub_le_sub_right hlast _))
  have hbit : (comb run.step _).testBit _ = true := testBit_comb hcount
  rw [Nat.div_mul_cancel (Nat.dvd_of_mod_eq_zero hstep)] at hbit
  rw [pointsFrom, Nat.testBit_shiftLeft, Nat.add_sub_cancel_left, hbit]
  simp

/-- The code points of all runs, each from its own start on. -/
def points (start : CaseRun → Nat) : List CaseRun → Nat
  | [] => 0
  | run :: runs => run.pointsFrom (start run) ||| points start runs

theorem testBit_points {start : CaseRun → Nat} {run : CaseRun} {runs : List CaseRun} {n : Nat}
    (hrun : run ∈ runs) (h : (run.pointsFrom (start run)).testBit n = true) :
    (points start runs).testBit n = true := by
  induction runs with
  | nil => cases hrun
  | cons other runs ih =>
      rw [points, Nat.testBit_or, Bool.or_eq_true]
      rcases List.mem_cons.1 hrun with rfl | hrun
      · exact .inl h
      · exact .inr (ih hrun)

/-- If no code point is both in a run and the image of one, then no run holds an image. -/
theorem image?_eq_none_of_apart {runs : List CaseRun} {run other : CaseRun} {n m : Nat}
    (hapart : points first runs &&& points target runs = 0) (hrun : run ∈ runs)
    (hother : other ∈ runs) (hm : run.image? n = some m) : other.image? m = none := by
  rw [Option.eq_none_iff_forall_ne_some]
  intro k hk
  have himage : (points target runs).testBit m = true := by
    obtain ⟨-, -, -, rfl⟩ := image?_eq_some_iff.1 hm
    exact testBit_points hrun (testBit_pointsFrom hm _)
  have hsource : (points first runs).testBit m = true := by
    have hbit := testBit_pointsFrom hk other.first
    rw [Nat.add_sub_cancel' (image?_eq_some_iff.1 hk).1] at hbit
    exact testBit_points hother hbit
  have hboth := Nat.testBit_and (points first runs) (points target runs) m
  rw [hapart, hsource, himage, Nat.zero_testBit] at hboth
  cases hboth

end CaseRun

/-- A case table whose images are left as they are when the table is applied again. -/
structure SettledTable (expansions : List (Nat × List Nat)) (runs : List CaseRun) : Prop where
  runs_apart : CaseRun.points (·.first) runs &&& CaseRun.points (·.target) runs = 0
  keys_miss : ∀ run ∈ runs, ∀ entry ∈ expansions,
    run.target + (run.last - run.first) < entry.1 ∨ entry.1 < run.target
  expansions_settled : ∀ entry ∈ expansions, ∀ m ∈ entry.2, caseImage expansions runs m = [m]

theorem SettledTable.caseImage_eq {expansions : List (Nat × List Nat)} {runs : List CaseRun}
    (h : SettledTable expansions runs) {n m : Nat} (hm : m ∈ caseImage expansions runs n) :
    caseImage expansions runs m = [m] := by
  cases hlookup : expansions.lookup n with
  | some ms =>
      rw [caseImage, hlookup] at hm
      obtain ⟨before, after, hentry, -⟩ := List.lookup_eq_some_iff.1 hlookup
      exact h.expansions_settled (n, ms) (by simp [hentry]) m hm
  | none =>
      cases himage : runs.findSome? (·.image? n) with
      | none =>
          have hself : caseImage expansions runs n = [n] := by
            rw [caseImage, hlookup, himage, Option.getD_none]
          rw [hself, List.mem_singleton] at hm
          rw [hm, hself]
      | some k =>
          rw [caseImage, hlookup, himage, Option.getD_some, List.mem_singleton] at hm
          subst hm
          obtain ⟨run, hrun, hk⟩ := List.exists_of_findSome?_eq_some himage
          have hlookup' : expansions.lookup m = none := by
            rw [List.lookup_eq_none_iff]
            intro entry hentry
            obtain ⟨hfirst, hlast, -, hm⟩ := CaseRun.image?_eq_some_iff.1 hk
            have hmiss := h.keys_miss run hrun entry hentry
            have hne : m ≠ entry.1 := by omega
            simpa using hne
          have himage' : runs.findSome? (·.image? m) = none :=
            List.findSome?_eq_none_iff.2 fun other hother =>
              CaseRun.image?_eq_none_of_apart h.runs_apart hrun hother hk
          rw [caseImage, hlookup', himage', Option.getD_none]

theorem settledTable_lower : SettledTable lowerExpansions lowerRuns where
  runs_apart := by decide +kernel
  keys_miss := by decide +kernel
  expansions_settled := by decide +kernel

/-- Lower case leaves the characters of a lower case as they are. -/
theorem lowerChar_of_mem_lowerChar {c d : Char} (h : d ∈ lowerChar c) : lowerChar d = [d] := by
  obtain ⟨m, hm, rfl⟩ := List.mem_map.1 h
  rcases toNat_ofNat m with hvalid | hzero
  · rw [lowerChar, hvalid, settledTable_lower.caseImage_eq hm, List.map_singleton]
  · -- A code point that is no character stands for the character zero.
    rw [← Char.ofNat_toNat (Char.ofNat m), hzero]
    decide

theorem lowerChar_ne_of_isUpper {c : Char} (h : c.isUpper = true) : lowerChar c ≠ [c] := by
  have hletters : ∀ n ∈ List.range' 0x41 26, lowerChar (Char.ofNat n) ≠ [Char.ofNat n] := by
    decide +kernel
  have hmem : c.toNat ∈ List.range' 0x41 26 := by
    have hbounds : 0x41 ≤ c.toNat ∧ c.toNat ≤ 0x5A := by
      have hrange : c.val ≥ 'A'.val ∧ c.val ≤ 'Z'.val := of_decide_eq_true h
      exact ⟨UInt32.le_iff_toNat_le.1 hrange.1, UInt32.le_iff_toNat_le.1 hrange.2⟩
    rw [List.mem_range'_1]
    omega
  rw [← Char.ofNat_toNat c]
  exact hletters _ hmem

theorem isUpper_of_mem_lowerChar {c d : Char} (h : d ∈ lowerChar c) : d.isUpper = false := by
  rw [← Bool.not_eq_true]
  exact fun hupper => lowerChar_ne_of_isUpper hupper (lowerChar_of_mem_lowerChar h)

/-- Each character of a text in lower case, whatever its neighbours are. -/
def lowerEach (s : String) : String := String.ofList (s.toList.flatMap lowerChar)

end Unicode

namespace Text

open Unicode (lowerChar lowerEach)

/-- What the hyphenated form has between the forms of two texts: a hyphen where the first one ends
with a letter from `a` to `z` and the second one starts with a letter from `A` to `Z`. -/
def seam (s t : String) : String :=
  if s.toList.getLast?.any Char.isLower && t.toList.head?.any Char.isUpper then "-" else ""

/-- The text without its hyphens. -/
def unhyphened (s : String) : String := String.ofList (s.toList.filter (· ≠ '-'))

/-- All that a pass takes along from the text before is whether a hyphen is due. -/
theorem kebabFrom_eq (afterLower : Bool) (cs : List Char) :
    kebabFrom afterLower cs =
      (if afterLower && cs.head?.any Char.isUpper then ['-'] else []) ++ kebabFrom false cs := by
  cases cs with
  | nil => simp [kebabFrom]
  | cons c cs => simp [kebabFrom]

theorem kebabFrom_append (afterLower : Bool) (cs ds : List Char) :
    kebabFrom afterLower (cs ++ ds) =
      kebabFrom afterLower cs ++ kebabFrom ((cs.getLast?.map Char.isLower).getD afterLower) ds := by
  induction cs generalizing afterLower with
  | nil => rfl
  | cons c cs ih =>
      rw [List.cons_append, kebabFrom, ih, kebabFrom, List.append_assoc _ (kebabFrom _ _)]
      cases cs with
      | nil => rfl
      | cons d cs =>
          rw [List.getLast?_cons_cons, List.getLast?_cons]
          rfl

theorem kebab_append (s t : String) : kebab (s ++ t) = kebab s ++ seam s t ++ kebab t := by
  have hflag : (s.toList.getLast?.map Char.isLower).getD false =
      s.toList.getLast?.any Char.isLower := by
    cases s.toList.getLast? <;> rfl
  have hseam : (seam s t).toList = if s.toList.getLast?.any Char.isLower &&
      t.toList.head?.any Char.isUpper then ['-'] else [] := by
    unfold seam
    split_ifs <;> rfl
  apply String.toList_inj.1
  simp only [kebab, String.toList_append, String.toList_ofList, hseam]
  rw [kebabFrom_append, kebabFrom_eq _ t.toList, hflag, List.append_assoc]

theorem filter_lowerChar (c : Char) :
    (lowerChar c).filter (· ≠ '-') = if c = '-' then [] else lowerChar c := by
  split_ifs with h
  · rw [h]
    decide
  · rw [List.filter_eq_self]
    intro d hd
    rw [decide_eq_true_eq]
    rintro rfl
    exact h (Unicode.eq_of_mem_lowerChar (by decide) (by decide) hd).symm

theorem filter_kebabFrom (afterLower : Bool) (cs : List Char) :
    (kebabFrom afterLower cs).filter (· ≠ '-') =
      (cs.filter (· ≠ '-')).flatMap lowerChar := by
  induction cs generalizing afterLower with
  | nil => rfl
  | cons c cs ih =>
      have hhyphen : (if afterLower && c.isUpper then ['-'] else []).filter (· ≠ '-') = [] := by
        split_ifs <;> rfl
      rw [kebabFrom, List.filter_append, List.filter_append, hhyphen, List.nil_append,
        filter_lowerChar, ih, List.filter_cons]
      by_cases h : c = '-' <;> simp [h]

theorem unhyphened_kebab (s : String) : unhyphened (kebab s) = lowerEach (unhyphened s) := by
  rw [unhyphened, kebab, String.toList_ofList, filter_kebabFrom, lowerEach, unhyphened,
    String.toList_ofList]

/-- A text in which no letter starts a new part and lower case changes nothing is its own form. -/
theorem kebabFrom_eq_self {cs : List Char}
    (h : ∀ c ∈ cs, lowerChar c = [c] ∧ c.isUpper = false) (afterLower : Bool) :
    kebabFrom afterLower cs = cs := by
  induction cs generalizing afterLower with
  | nil => rfl
  | cons c cs ih =>
      obtain ⟨hlower, hupper⟩ := h c (by simp)
      rw [kebabFrom, hlower, hupper, ih fun d hd => h d (by simp [hd])]
      simp

theorem settled_of_mem_kebabFrom {afterLower : Bool} {cs : List Char} {d : Char}
    (h : d ∈ kebabFrom afterLower cs) : lowerChar d = [d] ∧ d.isUpper = false := by
  induction cs generalizing afterLower with
  | nil => exact absurd h List.not_mem_nil
  | cons c cs ih =>
      rw [kebabFrom, List.mem_append, List.mem_append] at h
      rcases h with (h | h) | h
      · split_ifs at h
        · rw [List.mem_singleton.1 h]
          decide
        · exact absurd h List.not_mem_nil
      · exact ⟨Unicode.lowerChar_of_mem_lowerChar h, Unicode.isUpper_of_mem_lowerChar h⟩
      · exact ih h

theorem kebab_kebab (s : String) : kebab (kebab s) = kebab s := by
  have hsettled : kebabFrom false (kebab s).toList = (kebab s).toList := by
    refine kebabFrom_eq_self (fun c hc => ?_) false
    rw [kebab, String.toList_ofList] at hc
    exact settled_of_mem_kebabFrom hc
  rw [kebab, hsettled, String.ofList_toList]

theorem lowerEach_append (s t : String) : lowerEach (s ++ t) = lowerEach s ++ lowerEach t := by
  simp [lowerEach]

theorem unhyphened_append (s t : String) :
    unhyphened (s ++ t) = unhyphened s ++ unhyphened t := by
  simp [unhyphened]

theorem unhyphened_of_isToken {s : String} (h : Unicode.IsToken s.toList) : unhyphened s = s := by
  have hself : s.toList.filter (· ≠ '-') = s.toList := by
    rw [List.filter_eq_self]
    intro c hc
    rw [decide_eq_true_eq]
    exact Unicode.ne_of_isWord (h.isWord c hc) (by decide)
  rw [unhyphened, hself, String.ofList_toList]

/-- Between the same texts, words with the same form differ in case only. -/
theorem lowerEach_eq_of_kebab_eq {before after name name' : String}
    (hname : Unicode.IsToken name.toList) (hname' : Unicode.IsToken name'.toList)
    (h : kebab (before ++ name ++ after) = kebab (before ++ name' ++ after)) :
    lowerEach name = lowerEach name' := by
  have hlower := congrArg unhyphened h
  simp only [unhyphened_kebab, unhyphened_append, unhyphened_of_isToken hname,
    unhyphened_of_isToken hname', lowerEach_append] at hlower
  exact (String.append_right_inj _).1 ((String.append_left_inj _).1 hlower)

end Text

namespace Artifact.Plan

open Unicode (IsToken lowerEach)

variable {plan : Plan} {kind : Kind} {name name' : String}

theorem lowerEach_eq_of_fileName_eq (hstyle : plan.naming = .kebabCase)
    (hname : IsToken name.toList) (hname' : IsToken name'.toList)
    (h : (plan.recordNames kind name).fileName = (plan.recordNames kind name').fileName) :
    lowerEach name = lowerEach name' := by
  simp only [recordNames, fileName, hstyle, NamingStyle.apply] at h
  exact Text.lowerEach_eq_of_kebab_eq hname hname' ((String.append_left_inj _).1 h)

/-- Modules of one kind go to one path only under one file name. -/
theorem SlashFree.fileName_eq_of_path_eq (hfree : plan.SlashFree) (hname : '/' ∉ name.toList)
    (hname' : '/' ∉ name'.toList) {fields fields' : List Schema.Field}
    (h : (plan.recordArtifact name fields kind).path =
      (plan.recordArtifact name' fields' kind).path) :
    (plan.recordNames kind name).fileName = (plan.recordNames kind name').fileName := by
  have hsteps : ∀ {name : String}, '/' ∉ name.toList → ∀ fields : List Schema.Field,
      (plan.recordArtifact name fields kind).path.steps =
        (plan.dirFor kind).steps ++ [(plan.recordNames kind name).fileName] := by
    intro name hslash fields
    have hfile : '/' ∉ (plan.fileNameOf (.record name kind)).toList := by
      rw [hfree.slash_mem_fileNameOf_iff]
      rintro ⟨other, hother, hmem⟩
      exact hslash (Option.some.inj hother ▸ hmem)
    exact Path.steps_join hfile (isIdle_fileName ..)
  have heq := congrArg Path.steps h
  rw [hsteps hname, hsteps hname'] at heq
  exact List.singleton_inj.1 (List.append_cancel_left heq)

end Artifact.Plan

/-- The hyphenated form obeys its laws, and under this style the modules of two records that are
named by words share a file name, or a path, only if the names differ in case at most. -/
theorem kebab_laws (s t : String) (plan : Artifact.Plan) (kind : Artifact.Kind)
    (name name' : String) :
    Text.kebab (s ++ t) = Text.kebab s ++ Text.seam s t ++ Text.kebab t ∧
    Text.unhyphened (Text.kebab s) = Unicode.lowerEach (Text.unhyphened s) ∧
    Text.kebab (Text.kebab s) = Text.kebab s ∧
    (plan.naming = .kebabCase → Unicode.IsToken name.toList → Unicode.IsToken name'.toList →
      ((plan.recordNames kind name).fileName = (plan.recordNames kind name').fileName →
        Unicode.lowerEach name = Unicode.lowerEach name') ∧
      (plan.SlashFree → ∀ fields fields' : List Schema.Field,
        (plan.recordArtifact name fields kind).path =
          (plan.recordArtifact name' fields' kind).path →
        Unicode.lowerEach name = Unicode.lowerEach name')) := by
  refine ⟨Text.kebab_append s t, Text.unhyphened_kebab s, Text.kebab_kebab s,
    fun hstyle hname hname' => ⟨?_, fun hfree fields fields' hpath => ?_⟩⟩
  · exact Artifact.Plan.lowerEach_eq_of_fileName_eq hstyle hname hname'
  · have hslash : Unicode.isWord '/' = false := by decide
    exact Artifact.Plan.lowerEach_eq_of_fileName_eq hstyle hname hname'
      (hfree.fileName_eq_of_path_eq (hname.not_mem hslash) (hname'.not_mem hslash) hpath)

/-- Two names that differ in the case of a letter with an accent share a file name. -/
theorem kebab_laws_accented :
    let plan : Artifact.Plan := { Artifact.Plan.default with naming := .kebabCase }
    plan.naming = .kebabCase ∧ plan.SlashFree ∧ Unicode.IsToken "Étage".toList ∧
      Unicode.IsToken "étage".toList ∧
      (plan.recordNames .dto "Étage").fileName = (plan.recordNames .dto "étage").fileName ∧
      Unicode.lowerEach "Étage" = Unicode.lowerEach "étage" := by
  intro plan
  have hfree : plan.SlashFree :=
    ⟨by rintro (_ | _ | _ | _) <;> decide, by rintro (_ | _ | _ | _) <;> decide⟩
  have hname : Unicode.IsToken "Étage".toList := by decide
  have hname' : Unicode.IsToken "étage".toList := by decide
  have hfile : (plan.recordNames .dto "Étage").fileName =
      (plan.recordNames .dto "étage").fileName := by decide +kernel
  have hlaws := kebab_laws "" "" plan .dto "Étage" "étage"
  exact ⟨rfl, hfree, hname, hname', hfile, (hlaws.2.2.2 rfl hname hname').1 hfile⟩

end SchemaScribe

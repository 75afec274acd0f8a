import SchemaScribe.CommandLine.Invocation
import Mathlib.Tactic.SplitIfs

/-!
# Arguments that two commands share

Checking understands the options for the schema, for aliases and for the settings file, which
generating understands as well, and one switch of its own. Arguments that checking accepts without
its own switch are scanned alike when generating, behind the switch for a preview: after each
argument the two scans have taken the same options and wait for the same value.
-/
namespace SchemaScribe.CommandLine

theorem exists_of_bind_eq_ok {ε α β : Type} {x : Except ε α} {f : α → Except ε β} {r : β}
    (h : (x >>= f) = .ok r) : ∃ a, x = .ok a ∧ f a = .ok r := by
  cases x with
  | error e => cases h
  | ok a => exact ⟨a, rfl, h⟩

/-- Generating has each named option of checking but one under the same name. -/
theorem Scope.long?_generate {name : String} {opt : Opt} (h : Scope.check.long? name = some opt) :
    opt ≠ .dryRun ∧ (opt ≠ .json → Scope.generate.long? name = some opt) := by
  have hmem := List.mem_of_find?_eq_some h
  have hname : opt.long? = some name := by simpa using List.find?_some h
  simp only [Scope.options, List.mem_cons, List.not_mem_nil, or_false] at hmem
  rcases hmem with rfl | rfl | rfl | rfl | rfl | rfl <;> cases hname
  case inr.inr.inl => exact ⟨by decide, fun hne => absurd rfl hne⟩
  all_goals exact ⟨by decide, fun _ => by decide⟩

theorem Scope.short?_generate {c : Char} {opt : Opt} (h : Scope.check.short? c = some opt) :
    opt ≠ .dryRun ∧ Scope.generate.short? c = some opt := by
  have hmem := List.mem_of_find?_eq_some h
  have hletter : opt.short? = some c := by simpa using List.find?_some h
  simp only [Scope.options, List.mem_cons, List.not_mem_nil, or_false] at hmem
  rcases hmem with rfl | rfl | rfl | rfl | rfl | rfl <;> cases hletter <;>
    exact ⟨by decide, by decide⟩

namespace Scan

variable {s s₁ s' : Scan} {opt switch : Opt} {value : String} {r : Except Usage Scan}

/-- The scan with a switch taken before everything else. -/
def having (s : Scan) (switch : Opt) : Scan := { s with taken := (switch, "") :: s.taken }

theorem value?_having (h : opt ≠ switch) : (s.having switch).value? opt = s.value? opt := by
  simp [value?, having, Ne.symm h]

theorem has_having (h : opt ≠ switch) : (s.having switch).has opt = s.has opt := by
  rw [has, has, value?_having h]

theorem has_eq_false_iff : s.has opt = false ↔ ∀ entry ∈ s.taken, entry.1 ≠ opt := by
  simp [has, value?]

/-- The option that is waiting is not the switch for a preview. -/
def Waits (s : Scan) : Prop := ∀ p ∈ s.pending?, p.opt ≠ .dryRun

/-- A scan of checking has gone on, and generating gives a result at the same argument: unless the
own switch of checking was taken, it is the same scan behind the switch for a preview. -/
structure Matches (s s' : Scan) (r : Except Usage Scan) : Prop where
  grows : s.taken <+: s'.taken
  waits : s'.Waits
  same : s'.has .json = false → r = .ok (s'.having .dryRun)

theorem Matches.refl (hs : s.Waits) : s.Matches s (.ok (s.having .dryRun)) :=
  ⟨List.prefix_rfl, hs, fun _ => rfl⟩

theorem Matches.has_json (h : s.Matches s' r) (hjson : s'.has .json = false) :
    s.has .json = false := by
  rw [has_eq_false_iff] at hjson ⊢
  exact fun entry hentry => hjson entry (h.grows.mem hentry)

theorem Matches.bind {f : Scan → Except Usage Scan} (h : s.Matches s₁ r)
    (h' : s₁.Matches s' (f (s₁.having .dryRun))) : s.Matches s' (r >>= f) where
  grows := h.grows.trans h'.grows
  waits := h'.waits
  same hjson := by
    rw [h.same (h'.has_json hjson)]
    exact h'.same hjson

theorem matches_takeOnce (hs : s.Waits) (hopt : opt ≠ .dryRun)
    (h : s.takeOnce opt value = .ok s') :
    s.Matches s' ((s.having .dryRun).takeOnce opt value) := by
  unfold takeOnce at h ⊢
  rw [has_having hopt]
  split_ifs at h ⊢
  cases h
  exact ⟨List.prefix_append _ _, hs, fun _ => rfl⟩

theorem matches_settle (hs : s.Waits) (h : s.settle = .ok s') :
    s.Matches s' (s.having .dryRun).settle := by
  obtain ⟨taken, pending?, trailing⟩ := s
  cases pending? with
  | none =>
      cases h
      exact .refl hs
  | some p =>
      obtain ⟨opt, value?⟩ := p
      cases value? with
      | none => cases h
      | some value =>
          have htake : (Scan.mk taken none trailing).takeOnce opt value = .ok s' := h
          have hwaits : (Scan.mk taken none trailing).Waits := by
            intro p hp
            cases hp
          have hmatches := matches_takeOnce hwaits (hs _ rfl) htake
          exact ⟨hmatches.grows, hmatches.waits, hmatches.same⟩

theorem matches_switchOn (hs : s.Waits) (hopt : opt ≠ .dryRun) (h : s.switchOn opt = .ok s') :
    s.Matches s' ((s.having .dryRun).switchOn opt) := by
  unfold switchOn at h ⊢
  obtain ⟨s₁, hsettle, h⟩ := exists_of_bind_eq_ok h
  have hmatches := matches_settle hs hsettle
  refine hmatches.bind ?_
  cases opt with
  | help => cases h
  | version => cases h
  | verbose =>
      cases h
      exact ⟨List.prefix_append _ _, hmatches.waits, fun _ => rfl⟩
  | _ => exact matches_takeOnce hmatches.waits hopt h

theorem has_json_of_switchOn (h : s.switchOn .json = .ok s') : s'.has .json = true := by
  obtain ⟨s₁, -, h⟩ := exists_of_bind_eq_ok h
  dsimp only at h
  unfold takeOnce at h
  split_ifs at h
  cases h
  rw [← Bool.not_eq_false, has_eq_false_iff]
  intro hnone
  exact hnone (.json, "") (by simp [take]) rfl

theorem matches_openValue (hs : s.Waits) (hopt : opt ≠ .dryRun) {attached? : Option String}
    (h : s.openValue opt attached? = .ok s') :
    s.Matches s' ((s.having .dryRun).openValue opt attached?) := by
  unfold openValue at h ⊢
  obtain ⟨s₁, hsettle, h⟩ := exists_of_bind_eq_ok h
  have hmatches := matches_settle hs hsettle
  refine hmatches.bind ?_
  cases attached? with
  | some value => exact matches_takeOnce hmatches.waits hopt h
  | none =>
      cases h
      refine ⟨List.prefix_rfl, fun p hp => ?_, fun _ => rfl⟩
      cases hp
      exact hopt

/-- Takes a named option: a switch on its own, another option with a value. -/
def takeNamed (s : Scan) (opt : Opt) (attached? : Option String) : Except Usage Scan :=
  if opt.intake = .nothing then
    if attached?.isSome then .error .unneededValue else s.switchOn opt
  else s.openValue opt attached?

/-- An argument with a name takes the option of this name. -/
theorem long_eq_of_some {scope : Scope} {cs : List Char}
    (h : scope.long? (String.ofList (cs.takeWhile (· ≠ '='))) = some opt) :
    s.long scope cs = s.takeNamed opt ((cs.dropWhile (· ≠ '=')).tail?.map String.ofList) := by
  unfold long takeNamed
  dsimp only
  rw [h]
  dsimp only
  cases cs.dropWhile (· ≠ '=') <;> cases opt.intake <;> rfl

theorem long_eq_of_none {scope : Scope} {cs : List Char}
    (h : scope.long? (String.ofList (cs.takeWhile (· ≠ '='))) = none) :
    s.long scope cs = .error .unknownArgument := by
  unfold long
  dsimp only
  rw [h]

theorem matches_takeNamed (hs : s.Waits) (hopt : opt ≠ .dryRun) {attached? : Option String}
    (h : s.takeNamed opt attached? = .ok s') :
    s.Matches s' ((s.having .dryRun).takeNamed opt attached?) := by
  unfold takeNamed at h ⊢
  split_ifs at h ⊢
  · exact matches_switchOn hs hopt h
  · exact matches_openValue hs hopt h

theorem has_json_of_takeNamed {attached? : Option String}
    (h : s.takeNamed .json attached? = .ok s') : s'.has .json = true := by
  have hintake : Opt.json.intake = .nothing := rfl
  rw [takeNamed, if_pos hintake] at h
  split_ifs at h
  exact has_json_of_switchOn h

theorem matches_long (hs : s.Waits) {cs : List Char} (h : s.long .check cs = .ok s') :
    s.Matches s' ((s.having .dryRun).long .generate cs) := by
  cases hlong : Scope.check.long? (String.ofList (cs.takeWhile (· ≠ '='))) with
  | none =>
      rw [long_eq_of_none hlong] at h
      cases h
  | some opt =>
      obtain ⟨hopt, hsame⟩ := Scope.long?_generate hlong
      rw [long_eq_of_some hlong] at h
      have hmatches := matches_takeNamed hs hopt h
      refine ⟨hmatches.grows, hmatches.waits, fun hno => ?_⟩
      -- Generating does not know the own switch of checking, which would be among what was taken.
      have hjson : opt ≠ .json := by
        rintro rfl
        rw [has_json_of_takeNamed h] at hno
        cases hno
      rw [long_eq_of_some (hsame hjson)]
      exact hmatches.same hno

theorem matches_letters (hs : s.Waits) {cs : List Char} (h : s.letters .check cs = .ok s') :
    s.Matches s' ((s.having .dryRun).letters .generate cs) := by
  induction cs generalizing s with
  | nil =>
      cases h
      exact .refl hs
  | cons c cs ih =>
      rw [letters] at h ⊢
      cases hshort : Scope.check.short? c with
      | none => simp [hshort] at h
      | some opt =>
          obtain ⟨hopt, hsame⟩ := Scope.short?_generate hshort
          rw [hsame]
          simp only [hshort] at h ⊢
          split at h
          · obtain ⟨s₁, hswitch, h⟩ := exists_of_bind_eq_ok h
            have hmatches := matches_switchOn hs hopt hswitch
            exact hmatches.bind (ih hmatches.waits h)
          · exact matches_openValue hs hopt h

section Arguments

variable {scope : Scope} {arg : String}

theorem next_of_trailing (h : s.trailing = true) : s.next scope arg = s.unnamed scope arg := by
  rw [next, if_pos h]

theorem next_ending (h : s.trailing = false) (harg : arg.toList = ['-', '-']) :
    s.next scope arg = .ok { s with trailing := true } := by
  rw [next, if_neg (by simp [h]), harg]
  rfl

theorem next_long {rest : List Char} (h : s.trailing = false)
    (harg : arg.toList = '-' :: '-' :: rest) (hrest : rest ≠ []) :
    s.next scope arg = s.long scope rest := by
  obtain ⟨c, cs, rfl⟩ := List.exists_cons_of_ne_nil hrest
  rw [next, if_neg (by simp [h]), harg]
  rfl

theorem next_letters {c : Char} {rest : List Char} (h : s.trailing = false)
    (harg : arg.toList = '-' :: c :: rest) (hc : c ≠ '-') :
    s.next scope arg = s.letters scope (c :: rest) := by
  rw [next, if_neg (by simp [h]), harg]
  split <;> simp_all

theorem next_word (h : s.trailing = false) (harg : ∀ c rest, arg.toList ≠ '-' :: c :: rest) :
    s.next scope arg =
      if (s.pending?.map (·.value?)) = some none then
        .ok { s with pending? := s.pending?.map fun p => ⟨p.opt, some arg⟩ }
      else s.unnamed scope arg := by
  rw [next, if_neg (by simp [h])]
  split
  · simp_all
  · simp_all
  · simp_all
  · obtain ⟨taken, pending?, trailing⟩ := s
    rcases pending? with _ | ⟨opt, _ | value⟩ <;> simp

/-- The four forms of an argument. -/
theorem argument_cases (arg : String) :
    arg.toList = ['-', '-'] ∨ (∃ rest, rest ≠ [] ∧ arg.toList = '-' :: '-' :: rest) ∨
      (∃ c rest, c ≠ '-' ∧ arg.toList = '-' :: c :: rest) ∨
      ∀ c rest, arg.toList ≠ '-' :: c :: rest := by
  by_cases hletters : ∃ c rest, arg.toList = '-' :: c :: rest
  · obtain ⟨c, rest, harg⟩ := hletters
    by_cases hc : c = '-'
    · subst hc
      cases rest with
      | nil => exact .inl harg
      | cons d rest => exact .inr (.inl ⟨d :: rest, List.cons_ne_nil _ _, harg⟩)
    · exact .inr (.inr (.inl ⟨c, rest, hc, harg⟩))
  · exact .inr (.inr (.inr fun c rest harg => hletters ⟨c, rest, harg⟩))

/-- One argument keeps the two scans alike. -/
theorem matches_next (hs : s.Waits) (h : s.next .check arg = .ok s') :
    s.Matches s' ((s.having .dryRun).next .generate arg) := by
  cases htrailing : s.trailing with
  | true =>
      -- Checking takes no argument without a name, so nothing may follow the end of the options.
      rw [next_of_trailing htrailing] at h
      cases h
  | false =>
      have htrailing' : (s.having .dryRun).trailing = false := htrailing
      rcases argument_cases arg with harg | ⟨rest, hrest, harg⟩ | ⟨c, rest, hc, harg⟩ | harg
      · rw [next_ending htrailing harg] at h
        rw [next_ending htrailing' harg]
        cases h
        exact ⟨List.prefix_rfl, hs, fun _ => rfl⟩
      · rw [next_long htrailing harg hrest] at h
        rw [next_long htrailing' harg hrest]
        exact matches_long hs h
      · rw [next_letters htrailing harg hc] at h
        rw [next_letters htrailing' harg hc]
        exact matches_letters hs h
      · rw [next_word htrailing harg] at h
        rw [next_word htrailing' harg]
        have hpending : (s.having .dryRun).pending? = s.pending? := rfl
        rw [hpending]
        split_ifs at h ⊢
        · cases h
          refine ⟨List.prefix_rfl, fun p hp => ?_, fun _ => rfl⟩
          obtain ⟨p₀, hp₀, rfl⟩ := Option.map_eq_some_iff.1 hp
          exact hs p₀ hp₀
        · cases h

/-- All arguments keep the two scans alike. -/
theorem matches_foldlM (hs : s.Waits) {args : List String}
    (h : args.foldlM (next .check) s = .ok s') :
    s.Matches s' (args.foldlM (next .generate) (s.having .dryRun)) := by
  induction args generalizing s with
  | nil =>
      cases h
      exact .refl hs
  | cons arg args ih =>
      rw [List.foldlM_cons] at h ⊢
      obtain ⟨s₁, hnext, h⟩ := exists_of_bind_eq_ok h
      have hmatches := matches_next hs hnext
      exact hmatches.bind (ih hmatches.waits h)

theorem next_dryRun : Scan.empty.next .generate "--dry-run" = .ok (Scan.empty.having .dryRun) := by
  rfl

/-- What checking takes from its arguments, generating takes behind the switch for a preview. -/
theorem all_generate_of_check {args : List String} (h : all .check args = .ok s')
    (hjson : s'.has .json = false) :
    all .generate ("--dry-run" :: args) = .ok (s'.having .dryRun) := by
  unfold all at h ⊢
  obtain ⟨s, hfold, hsettle⟩ := exists_of_bind_eq_ok h
  have hempty : Scan.empty.Waits := by
    intro p hp
    cases hp
  have hmatches := matches_foldlM hempty hfold
  have hsame := (hmatches.bind (matches_settle hmatches.waits hsettle)).same hjson
  rw [List.foldlM_cons, next_dryRun]
  exact hsame

end Arguments

section Given

variable {scope : Scope} {value? schema? config? : Option String} {mapping : Bool}

/-- Nothing is waiting, and options have not ended. -/
structure Ready (s : Scan) : Prop where
  pending?_eq : s.pending? = none
  trailing_eq : s.trailing = false

theorem Ready.settle (hs : s.Ready) : s.settle = .ok s := by
  rw [Scan.settle, hs.pending?_eq]

theorem Ready.openValue (hs : s.Ready) (opt : Opt) (value : String) :
    s.openValue opt (some value) = s.takeOnce opt value := by
  rw [Scan.openValue, hs.settle]
  rfl

/-- Takes an option if there is a value for it. -/
def takeGiven (s : Scan) (opt : Opt) (value? : Option String) : Scan :=
  { s with taken := s.taken ++ value?.toList.map (opt, ·) }

theorem Ready.takeGiven (hs : s.Ready) : (s.takeGiven opt value?).Ready :=
  ⟨hs.pending?_eq, hs.trailing_eq⟩

theorem has_takeGiven_of_ne (h : switch ≠ opt) (hs : s.has switch = false) :
    (s.takeGiven opt value?).has switch = false := by
  rw [has_eq_false_iff] at hs ⊢
  intro entry hentry
  rcases List.mem_append.1 hentry with hentry | hentry
  · exact hs entry hentry
  · obtain ⟨value, -, rfl⟩ := List.mem_map.1 hentry
    exact h.symm

theorem next_schema (hscope : scope = .check ∨ scope = .generate) (hs : s.Ready) (value : String) :
    s.next scope ("-s=" ++ value) = s.takeOnce .schema value := by
  have harg : ("-s=" ++ value).toList = '-' :: 's' :: '=' :: value.toList := by
    rw [String.toList_append]
    rfl
  have hletters : s.letters scope ('s' :: '=' :: value.toList) =
      s.openValue .schema (some (String.ofList value.toList)) := by
    rcases hscope with rfl | rfl <;> rfl
  rw [next_letters hs.trailing_eq harg (by decide), hletters, String.ofList_toList, hs.openValue]

theorem next_mapping (hscope : scope = .check ∨ scope = .generate) (hs : s.Ready) :
    s.next scope "-m" = s.takeOnce .useMapping "" := by
  have hletters : s.letters scope ['m'] = s.switchOn .useMapping >>= fun s => .ok s := by
    rcases hscope with rfl | rfl <;> rfl
  have hswitch : s.switchOn .useMapping = s.takeOnce .useMapping "" := by
    rw [switchOn, hs.settle]
    rfl
  have harg : "-m".toList = ['-', 'm'] := rfl
  rw [next_letters hs.trailing_eq harg (by decide), hletters, hswitch]
  exact bind_pure _

theorem next_config (hscope : scope = .check ∨ scope = .generate) (hs : s.Ready) (value : String) :
    s.next scope ("--config=" ++ value) = s.takeOnce .config value := by
  have harg : ("--config=" ++ value).toList = '-' :: '-' :: ("config=".toList ++ value.toList) := by
    rw [String.toList_append]
    rfl
  have hlong : s.long scope ("config=".toList ++ value.toList) =
      s.openValue .config (some (String.ofList value.toList)) := by
    rcases hscope with rfl | rfl <;> rfl
  rw [next_long hs.trailing_eq harg (by simp), hlong, String.ofList_toList, hs.openValue]

/-- An option for a path is refused with an empty value only. -/
theorem foldlM_path {spell : String → String}
    (hnext : ∀ value, s.next scope (spell value) = s.takeOnce opt value)
    (hpath : opt.intake = .path) (hfresh : s.has opt = false) (value? : Option String) :
    (value?.toList.map spell).foldlM (next scope) s =
      if value? = some "" then .error .badValue else .ok (s.takeGiven opt value?) := by
  cases value? with
  | none => simp [takeGiven, pure, Except.pure]
  | some value =>
      have hone : ([value].map spell).foldlM (next scope) s = s.takeOnce opt value := by
        rw [List.map_singleton, List.foldlM_cons, hnext]
        exact bind_pure _
      rw [Option.toList_some, hone, takeOnce, if_neg (by simp [hfresh]), Opt.accepts, hpath]
      by_cases hvalue : value = "" <;> simp [hvalue, takeGiven, take]

/-- The options that both commands have, as arguments. -/
def sharedArguments (schema? : Option String) (mapping : Bool) (config? : Option String) :
    List String :=
  schema?.toList.map ("-s=" ++ ·) ++ (if mapping then ["-m"] else []) ++
    config?.toList.map ("--config=" ++ ·)

/-- A scan with the options that both commands have. -/
def takeShared (s : Scan) (schema? : Option String) (mapping : Bool) (config? : Option String) :
    Scan :=
  ((s.takeGiven .schema schema?).takeGiven .useMapping
    (if mapping then some "" else none)).takeGiven .config config?

theorem foldlM_mapping (hscope : scope = .check ∨ scope = .generate) (hs : s.Ready)
    (hfresh : s.has .useMapping = false) :
    (if mapping then ["-m"] else []).foldlM (next scope) s =
      .ok (s.takeGiven .useMapping (if mapping then some "" else none)) := by
  cases mapping with
  | false => simp [takeGiven, pure, Except.pure]
  | true =>
      rw [if_pos rfl, if_pos rfl, List.foldlM_cons, next_mapping hscope hs, takeOnce,
        if_neg (by simp [hfresh])]
      rfl

/-- Both commands take the options that they share, unless a path is empty. -/
theorem foldlM_sharedArguments (hscope : scope = .check ∨ scope = .generate) (hs : s.Ready)
    (hfresh : ∀ opt ∈ [Opt.schema, .useMapping, .config], s.has opt = false) :
    (sharedArguments schema? mapping config?).foldlM (next scope) s =
      if schema? = some "" ∨ config? = some "" then .error .badValue
      else .ok (s.takeShared schema? mapping config?) := by
  have hschema : s.has .schema = false := hfresh _ (by simp)
  have hmapping : (s.takeGiven .schema schema?).has .useMapping = false :=
    has_takeGiven_of_ne (by decide) (hfresh _ (by simp))
  have hconfig : ((s.takeGiven .schema schema?).takeGiven .useMapping
      (if mapping then some "" else none)).has .config = false :=
    has_takeGiven_of_ne (by decide) (has_takeGiven_of_ne (by decide) (hfresh _ (by simp)))
  rw [sharedArguments, List.foldlM_append, List.foldlM_append,
    foldlM_path (next_schema hscope hs) rfl hschema]
  by_cases hempty : schema? = some ""
  · have hrefused : schema? = some "" ∨ config? = some "" := .inl hempty
    rw [if_pos hempty, if_pos hrefused]
    rfl
  · rw [if_neg hempty]
    change (List.foldlM _ _ _ >>= _) = _
    rw [foldlM_mapping hscope hs.takeGiven hmapping]
    change List.foldlM _ _ _ = _
    rw [foldlM_path (next_config hscope hs.takeGiven.takeGiven) rfl hconfig]
    simp [hempty, takeShared]

theorem ready_empty : empty.Ready := ⟨rfl, rfl⟩

theorem all_check_sharedArguments :
    all .check (sharedArguments schema? mapping config?) =
      if schema? = some "" ∨ config? = some "" then .error .badValue
      else .ok (empty.takeShared schema? mapping config?) := by
  rw [all, foldlM_sharedArguments (.inl rfl) ready_empty (fun _ _ => rfl)]
  split_ifs <;> rfl

theorem all_generate_sharedArguments (h : schema? = some "" ∨ config? = some "") :
    all .generate ("--dry-run" :: sharedArguments schema? mapping config?) = .error .badValue := by
  have hready : (empty.having .dryRun).Ready := ⟨rfl, rfl⟩
  have hfresh : ∀ opt ∈ [Opt.schema, .useMapping, .config],
      (empty.having .dryRun).has opt = false := by decide
  rw [all, List.foldlM_cons, next_dryRun]
  change (List.foldlM _ _ _ >>= _) = _
  rw [foldlM_sharedArguments (.inr rfl) hready hfresh, if_pos h]
  rfl

end Given

theorem flags_having (s : Scan) : (s.having .dryRun).flags = s.flags := by
  have hvalue : ∀ opt, opt ≠ .dryRun → (s.having .dryRun).value? opt = s.value? opt :=
    fun _ => value?_having
  simp [flags, kindFlags, path?, has, hvalue]

theorem verbosity_having (s : Scan) : (s.having .dryRun).verbosity = s.verbosity := by
  simp [verbosity, having]

end Scan

namespace Invocation

variable {args : List String} {verbosity : Nat} {config? : Option Path} {flags : Settings.Flags}

/-- The arguments of a check, without its own switch, ask for a preview with the same settings. -/
theorem ofArguments_preview_of_check
    (h : ofArguments ("check" :: args) = .ok ⟨verbosity, .check config? flags false⟩) :
    ofArguments ("generate" :: "--dry-run" :: args) =
      .ok ⟨verbosity, .generate config? flags true⟩ := by
  have hcheck : ofArguments ("check" :: args) = ofScope .empty .check args := rfl
  have hgenerate : ofArguments ("generate" :: "--dry-run" :: args) =
      ofScope .empty .generate ("--dry-run" :: args) := rfl
  rw [hcheck] at h
  rw [hgenerate]
  obtain ⟨s, hall, hcommand⟩ := exists_of_bind_eq_ok h
  have hinvocation := Except.ok.inj hcommand
  simp only [Invocation.mk.injEq, Command.check.injEq] at hinvocation
  obtain ⟨hverbosity, hconfig, hflags, hjson⟩ := hinvocation
  unfold ofScope
  rw [Scan.all_generate_of_check hall hjson]
  have hverbose : (s.having .dryRun).has .verbose = s.has .verbose := Scan.has_having (by decide)
  have hpath : (s.having .dryRun).path? .config = s.path? .config := by
    rw [Scan.path?, Scan.path?, Scan.value?_having (by decide)]
  have hdry : (s.having .dryRun).has .dryRun = true := rfl
  rw [← hverbosity, ← hconfig, ← hflags, ← hverbose, ← hpath, ← Scan.flags_having,
    ← Scan.verbosity_having, ← hdry]
  rfl

section Shared

variable (schema? config? : Option String) (mapping : Bool)

/-- The settings that the shared options stand for. -/
def sharedFlags (schema? : Option String) (mapping : Bool) : Settings.Flags :=
  { Settings.Flags.none with schema := schema?.map Path.mk, useMapping := mapping }

theorem ofArguments_check_sharedArguments (hschema : schema? ≠ some "")
    (hconfig : config? ≠ some "") :
    ofArguments ("check" :: Scan.sharedArguments schema? mapping config?) =
      .ok ⟨0, .check (config?.map Path.mk) (sharedFlags schema? mapping) false⟩ := by
  change ofScope .empty .check _ = _
  rw [ofScope, Scan.all_check_sharedArguments, if_neg (by simp [hschema, hconfig])]
  cases schema? <;> cases mapping <;> cases config? <;> rfl

theorem ofArguments_check_of_emptyPath (h : schema? = some "" ∨ config? = some "") :
    ofArguments ("check" :: Scan.sharedArguments schema? mapping config?) = .error .badValue := by
  change ofScope .empty .check _ = _
  rw [ofScope, Scan.all_check_sharedArguments, if_pos h]
  rfl

theorem ofArguments_preview_of_emptyPath (h : schema? = some "" ∨ config? = some "") :
    ofArguments ("generate" :: "--dry-run" :: Scan.sharedArguments schema? mapping config?) =
      .error .badValue := by
  change ofScope .empty .generate _ = _
  rw [ofScope, Scan.all_generate_sharedArguments h]
  rfl

end Shared

end Invocation

end SchemaScribe.CommandLine

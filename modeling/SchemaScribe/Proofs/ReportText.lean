import SchemaScribe.Report
import Mathlib.Data.List.Basic

/-!
# What reports show

The text of a report is put together from the texts of its items. Warnings and errors stand on the
error stream only. The output of each report is written out here line by line, so that statements on
commands can say what they list.
-/
namespace SchemaScribe.Report

theorem outputText_append (xs ys : List Item) :
    outputText (xs ++ ys) = outputText xs ++ outputText ys := by
  rw [outputText, List.filterMap_append, List.map_append, String.join_append]
  rfl

theorem errorLines_append (xs ys : List Item) :
    errorLines (xs ++ ys) = errorLines xs ++ errorLines ys := List.filterMap_append

/-- Warnings go to the error stream only. -/
theorem outputText_warnings (ws : List String) : outputText (ws.map .warning) = "" := by
  simp [outputText, Item.outputLine?]

theorem errorLines_warnings (ws : List String) : errorLines (ws.map .warning) = ws := by
  simp [errorLines, Item.errorLine?]

theorem errorLines_eq_nil {items : List Item} (h : ∀ item ∈ items, item.errorLine? = none) :
    errorLines items = [] := List.filterMap_eq_nil_iff.2 h

/-- How records are listed with their numbers of fields. -/
def listing (records : List (String × Nat)) : String :=
  "Records (" ++ toString records.length ++ "):\n" ++
    String.join (records.map fun (name, count) =>
      "  - " ++ name ++ " (" ++ toString count ++
        (if count = 1 then " field" else " fields") ++ ")\n")

/-- How the paths of written files are listed. -/
def pathListing (paths : List Path) : String :=
  "Generated (" ++ toString paths.length ++ "):\n" ++
    String.join (paths.map fun p => "  + " ++ p.text ++ "\n")

theorem fieldsText_eq (count : Nat) :
    fieldsText count = toString count ++ if count = 1 then " field" else " fields" := by
  unfold fieldsText
  split_ifs <;> rw [String.append_assoc] <;> rfl

/-- A text under a label. -/
def labelled (label content : String) : String := "── " ++ label ++ " ──\n" ++ content ++ "\n"

/-- How the number of files is announced. -/
def announcement (count : Nat) : String :=
  labelled "Summary" (toString count ++ " files would be generated")

theorem outputText_labelled (label content : String) :
    outputText [.divider label, .preformatted content] = labelled label content := by
  simp [outputText, Item.outputLine?, labelled, String.append_assoc]

theorem outputText_keyValue_cons (key value : String) (items : List Item) :
    outputText (.keyValue key value :: items) =
      (key ++ ": ") ++ (value ++ "\n" ++ outputText items) := by
  simp [outputText, Item.outputLine?, String.append_assoc]

variable (warnings : List String)

theorem outputText_check (schema : Path) (records : List (String × Nat)) :
    outputText (check schema warnings records) =
      (if warnings.isEmpty then "" else "\n") ++ ("✓ " ++ schema.text ++ " is valid\n") ++
        ("\n" ++ listing records) := by
  have hrecords : outputText (records.map fun (name, count) =>
      .listItem (name ++ " (" ++ fieldsText count ++ ")")) =
      String.join (records.map fun (name, count) => "  - " ++ name ++ " (" ++ toString count ++
        (if count = 1 then " field" else " fields") ++ ")\n") := by
    simp [outputText, Item.outputLine?, fieldsText_eq, Function.comp_def, String.append_assoc]
  have hblank : outputText (if warnings.isEmpty then [] else [.newline]) =
      if warnings.isEmpty then "" else "\n" := by
    cases warnings.isEmpty <;> rfl
  rw [check, outputText_append, outputText_append, outputText_append, outputText_warnings, hblank,
    hrecords, listing, String.empty_append]
  simp [outputText, Item.outputLine?, String.append_assoc]

theorem outputText_files (files : List (Path × String)) :
    outputText (files.flatMap fun (path, content) =>
      [.divider path.text, .preformatted content]) =
      String.join (files.map fun (path, content) => labelled path.text content) := by
  induction files with
  | nil => rfl
  | cons file files ih =>
      rw [List.flatMap_cons, outputText_append, ih, List.map_cons, String.join_cons,
        outputText_labelled]

theorem outputText_preview (files : List (Path × String)) :
    outputText (preview warnings files) =
      String.join (files.map fun (path, content) => labelled path.text content) ++
        announcement files.length := by
  rw [preview, outputText_append, outputText_append, outputText_warnings, outputText_files,
    outputText_labelled, String.empty_append, announcement]

theorem errorLines_check (schema : Path) (records : List (String × Nat)) :
    errorLines (check schema warnings records) = warnings := by
  have hblank : errorLines (if warnings.isEmpty then [] else [.newline]) = [] := by
    cases warnings.isEmpty <;> rfl
  have hrecords : errorLines (records.map fun (name, count) =>
      .listItem (name ++ " (" ++ fieldsText count ++ ")")) = [] := by
    simp [errorLines, Item.errorLine?]
  rw [check, errorLines_append, errorLines_append, errorLines_append, errorLines_warnings, hblank,
    hrecords, List.append_nil, List.append_nil]
  exact List.append_nil _

theorem errorLines_preview (files : List (Path × String)) :
    errorLines (preview warnings files) = warnings := by
  have hfiles : errorLines (files.flatMap fun (path, content) =>
      [.divider path.text, .preformatted content]) = [] := by
    refine errorLines_eq_nil fun item hitem => ?_
    obtain ⟨file, -, hitem⟩ := List.mem_flatMap.1 hitem
    simp only [List.mem_cons, List.not_mem_nil, or_false] at hitem
    rcases hitem with rfl | rfl <;> rfl
  rw [preview, errorLines_append, errorLines_append, errorLines_warnings, hfiles, List.append_nil]
  exact List.append_nil _

/-- The output of a report on written files names each of them. -/
theorem outputText_written (schema : Path) (recordCount : Nat) (paths : List Path)
    (failures : List WriteFailure) :
    outputText (written schema warnings recordCount paths failures) =
      ("Schema: " ++ schema.text ++ "\n") ++ ("Records: " ++ toString recordCount ++ "\n") ++
        ("\n" ++ pathListing paths) := by
  have hpaths : outputText (paths.map fun p => .addedItem p.text) =
      String.join (paths.map fun p => "  + " ++ p.text ++ "\n") := by
    simp [outputText, Item.outputLine?, Function.comp_def, String.append_assoc]
  have hfailures : outputText (failures.map fun f => .error f.display) = "" := by
    simp [outputText, Item.outputLine?]
  have hcounts : outputText [.keyValue "Schema" schema.text,
      .keyValue "Records" (toString recordCount), .newline,
      .heading ("Generated (" ++ toString paths.length ++ ")")] =
      ("Schema: " ++ schema.text ++ "\n") ++ ("Records: " ++ toString recordCount ++ "\n") ++
        ("\n" ++ ("Generated (" ++ toString paths.length ++ "):\n")) := by
    have hschema : "Schema" ++ ": " = "Schema: " := rfl
    have hrecords : "Records" ++ ": " = "Records: " := rfl
    rw [outputText_keyValue_cons, outputText_keyValue_cons, hschema, hrecords]
    simp [outputText, Item.outputLine?, String.append_assoc]
  rw [written, outputText_append, outputText_append, outputText_append, outputText_warnings, hpaths,
    hfailures, hcounts, pathListing, String.empty_append, String.append_empty]
  simp only [String.append_assoc]

theorem errorLines_written (schema : Path) (recordCount : Nat) (paths : List Path)
    (failures : List WriteFailure) :
    errorLines (written schema warnings recordCount paths failures) =
      warnings ++ failures.map fun f => "error: " ++ f.display := by
  simp [errorLines, written, Item.errorLine?]

end SchemaScribe.Report

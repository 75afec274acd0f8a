import SchemaScribe.Artifact.Render
import SchemaScribe.Proofs.DeclarationText
import SchemaScribe.Proofs.ReadNames

/-!
# Rendering loses nothing

The modules of a schema determine it. The registry gives the names back, since each row has its name
between the only two quotes of the row. In the same way the field names of a record come back from
its first module. Once they are known, the row of a field in a shape leaves only its type open.
-/
namespace SchemaScribe.Artifact

open Code (Declaration Frame)
open Schema (Catalogue Field)
open Text (Quotable)

/-- The row of a name under a key. -/
def quotedRow : Form → String → String → String
  | .nominal, key, name => Declaration.memberLine (key, name)
  | .frozen, key, name => Declaration.entryLine (key, .literal name)

/-- What stands between the key and the first quote of a row. -/
def quotedSeparator : Form → String
  | .nominal => " = "
  | .frozen => ": "

theorem toList_quotedRow (form : Form) (key name : String) :
    (quotedRow form key name).toList =
      key.toList ++ (quotedSeparator form).toList ++ '"' :: (name.toList ++ ['"', ',']) := by
  cases form <;>
    simp [quotedRow, quotedSeparator, Declaration.memberLine, Declaration.entryLine,
      Code.Slot.text]

theorem quotable_quotedSeparator (form : Form) : Quotable (quotedSeparator form) := by
  cases form <;> exact ⟨by decide, by decide⟩

/-- The name is what stands between the first two quotes of its row. -/
theorem upTo?_quotedRow (form : Form) {key name : String} (hkey : Quotable key)
    (hname : Quotable name) :
    (Text.upTo? '"' (quotedRow form key name).toList).bind (fun cut => Text.upTo? '"' cut.2) =
      some (name.toList, [',']) := by
  have hbefore : '"' ∉ key.toList ++ (quotedSeparator form).toList := by
    simp [hkey.no_quote, (quotable_quotedSeparator form).no_quote]
  rw [Text.upTo?_eq_some_iff.2 ⟨toList_quotedRow form key name, hbefore⟩, Option.bind_some]
  exact Text.upTo?_eq_some_iff.2 ⟨rfl, hname.no_quote⟩

theorem name_eq_of_quotedRow_eq {form : Form} {key key' name name' : String} (hkey : Quotable key)
    (hkey' : Quotable key') (hname : Quotable name) (hname' : Quotable name')
    (h : quotedRow form key name = quotedRow form key' name') : name = name' := by
  have hcut := upTo?_quotedRow form hkey hname
  rw [h, upTo?_quotedRow form hkey' hname'] at hcut
  have hchars : name'.toList = name.toList := by simpa using hcut
  exact (String.toList_inj.1 hchars).symm

theorem lineFeed_not_mem_quotedRow (form : Form) {key name : String} (hkey : Quotable key)
    (hname : Quotable name) : '\n' ∉ (quotedRow form key name).toList := by
  have hsep := quotable_quotedSeparator form
  simp [toList_quotedRow, hkey.no_lineFeed, hname.no_lineFeed, hsep.no_lineFeed]

/-- The row of a field in a shape. -/
def shapeRow : Form → Field → String
  | .nominal, f => Declaration.fieldLine (f.name, f.type)
  | .frozen, f => Declaration.entryLine (f.name, .typed f.type)

theorem eq_of_shapeRow_eq {form : Form} {f f' : Field} (hname : f.name = f'.name)
    (h : shapeRow form f = shapeRow form f') : f = f' := by
  obtain ⟨name, type⟩ := f
  obtain ⟨name', type'⟩ := f'
  obtain rfl : name = name' := hname
  have htype : type = type' := by
    cases form <;>
      simpa [shapeRow, Declaration.fieldLine, Declaration.entryLine, Code.Slot.text] using h
  rw [htype]

theorem lineFeed_not_mem_shapeRow (form : Form) {f : Field} (hf : f.Plain) :
    '\n' ∉ (shapeRow form f).toList := by
  have hname := hf.name.no_lineFeed
  have htype := hf.type
  cases form <;>
    simp [shapeRow, Declaration.fieldLine, Declaration.entryLine, Code.Slot.text, hname, htype]

/-- Items are known as far as their rows tell them apart. -/
theorem map_eq_of_map_eq {α β γ : Type} {row : α → β} {part : α → γ} {xs ys : List α}
    (h : ∀ x ∈ xs, ∀ y ∈ ys, row x = row y → part x = part y) (hrows : xs.map row = ys.map row) :
    xs.map part = ys.map part := by
  induction xs generalizing ys with
  | nil => simp_all
  | cons x xs ih =>
      cases ys with
      | nil => simp at hrows
      | cons y ys =>
          simp only [List.map_cons, List.cons.injEq] at hrows ⊢
          refine ⟨h x (by simp) y (by simp) hrows.1, ih (fun x' hx y' hy => ?_) hrows.2⟩
          exact h x' (by simp [hx]) y' (by simp [hy])

/-- The key of a field name in the module of field names. -/
def fieldKey : Form → String → String
  | .nominal, name => name
  | .frozen, name => Unicode.upperText name

def fieldNamesFrame (identifier : String) : Form → Frame
  | .nominal => .ofEnum identifier
  | .frozen => .ofObject identifier

def shapeFrame (identifier binding : String) : Form → Frame
  | .nominal => .ofClass identifier
  | .frozen => .ofObject binding

def registryFrame (identifier binding : String) : Form → Frame
  | .nominal => .ofEnum identifier
  | .frozen => (Frame.ofObject binding).followedBy
      ["", "export type " ++ identifier ++ " = keyof typeof " ++ binding ++ ";"]

theorem text_fieldNames (identifier : String) (fields : List Field) (form : Form) :
    (fieldNames identifier fields form).text = (fieldNamesFrame identifier form).text
      (fields.map fun f => quotedRow form (fieldKey form f.name) f.name) := by
  cases form with
  | nominal =>
      rw [fieldNames, Declaration.text, Declaration.write_stringEnum, List.map_map]
      rfl
  | frozen =>
      rw [fieldNames, Declaration.text, Declaration.write_frozenObject, List.map_map]
      rfl

theorem text_shape (identifier binding : String) (fields : List Field) (form : Form) :
    (shape identifier binding fields form).text =
      (shapeFrame identifier binding form).text (fields.map (shapeRow form)) := by
  cases form with
  | nominal =>
      rw [shape, Declaration.text, Declaration.write_shapeClass, List.map_map]
      rfl
  | frozen =>
      rw [shape, Declaration.text, Declaration.write_frozenObject, List.map_map]
      rfl

theorem registry_eq (identifier binding : String) (names : List String) (form : Form) :
    registry identifier binding names form = (registryFrame identifier binding form).text
      (names.map fun name => quotedRow form (Unicode.upperText name) name) := by
  cases form with
  | nominal =>
      rw [registry, Declaration.text, Declaration.write_stringEnum, List.map_map]
      rfl
  | frozen =>
      have hlines : ∀ rows : List String,
          (Frame.ofObject binding).lines rows ++ [""] ++ [Code.indentation 0 ++
            ("export type " ++ identifier ++ " = keyof typeof " ++ binding ++ ";")] =
              (registryFrame identifier binding .frozen).lines rows := by
        intro rows
        have hzero : Code.indentation 0 = "" := rfl
        simp [Frame.lines, registryFrame, Frame.followedBy, hzero]
      rw [registry, Declaration.write_frozenObject, List.map_map]
      exact congrArg _ (hlines _)

/-- Rows with the names between quotes determine the names. -/
theorem map_name_eq_of_quotedRows_eq {α : Type} {key name : α → String} {form : Form}
    (frame : Frame) {xs ys : List α} (hxs : ∀ x ∈ xs, Quotable (key x) ∧ Quotable (name x))
    (hys : ∀ y ∈ ys, Quotable (key y) ∧ Quotable (name y))
    (h : frame.text (xs.map fun x => quotedRow form (key x) (name x)) =
      frame.text (ys.map fun y => quotedRow form (key y) (name y))) :
    xs.map name = ys.map name := by
  have hrows := frame.rows_eq_of_text_eq
    (List.forall_mem_map.2 fun x hx => lineFeed_not_mem_quotedRow form (hxs x hx).1 (hxs x hx).2)
    (List.forall_mem_map.2 fun y hy => lineFeed_not_mem_quotedRow form (hys y hy).1 (hys y hy).2) h
  refine map_eq_of_map_eq (fun x hx y hy hrow => ?_) hrows
  exact name_eq_of_quotedRow_eq (hxs x hx).1 (hys y hy).1 (hxs x hx).2 (hys y hy).2 hrow

/-- The registry determines the names. -/
theorem names_eq_of_registry_eq {identifier binding : String} {form : Form}
    {names names' : List String} (hnames : ∀ name ∈ names, Quotable name)
    (hnames' : ∀ name ∈ names', Quotable name)
    (h : registry identifier binding names form = registry identifier binding names' form) :
    names = names' := by
  rw [registry_eq, registry_eq] at h
  have hparts : names.map id = names'.map id := map_name_eq_of_quotedRows_eq _
    (fun name hname => ⟨(hnames name hname).upperText, hnames name hname⟩)
    (fun name hname => ⟨(hnames' name hname).upperText, hnames' name hname⟩) h
  simpa using hparts

theorem quotable_fieldKey (form : Form) {name : String} (h : Quotable name) :
    Quotable (fieldKey form name) := by
  cases form with
  | nominal => exact h
  | frozen => exact h.upperText

/-- The module of field names determines them. -/
theorem map_name_eq_of_fieldNames_eq {identifier : String} {form : Form}
    {fields fields' : List Field} (hfields : ∀ f ∈ fields, f.Plain)
    (hfields' : ∀ f ∈ fields', f.Plain)
    (h : (fieldNames identifier fields form).text = (fieldNames identifier fields' form).text) :
    fields.map (·.name) = fields'.map (·.name) := by
  rw [text_fieldNames, text_fieldNames] at h
  exact map_name_eq_of_quotedRows_eq _
    (fun f hf => ⟨quotable_fieldKey form (hfields f hf).name, (hfields f hf).name⟩)
    (fun f hf => ⟨quotable_fieldKey form (hfields' f hf).name, (hfields' f hf).name⟩) h

/-- The module of field names and a shape determine the fields. -/
theorem fields_eq_of_modules_eq {identifier identifier' binding : String} {form form' : Form}
    {fields fields' : List Field} (hfields : ∀ f ∈ fields, f.Plain)
    (hfields' : ∀ f ∈ fields', f.Plain)
    (hnames : (fieldNames identifier fields form).text = (fieldNames identifier fields' form).text)
    (hshape : (shape identifier' binding fields form').text =
      (shape identifier' binding fields' form').text) : fields = fields' := by
  have hmap := map_name_eq_of_fieldNames_eq hfields hfields' hnames
  rw [text_shape, text_shape] at hshape
  have hrows := Frame.rows_eq_of_text_eq _
    (List.forall_mem_map.2 fun f hf => lineFeed_not_mem_shapeRow form' (hfields f hf))
    (List.forall_mem_map.2 fun f hf => lineFeed_not_mem_shapeRow form' (hfields' f hf)) hshape
  have hpairs : fields.map (fun f => (f.name, shapeRow form' f)) =
      fields'.map fun f => (f.name, shapeRow form' f) := by
    rw [← List.zip_map', ← List.zip_map', hmap, hrows]
  have hparts : fields.map id = fields'.map id := by
    refine map_eq_of_map_eq (fun f _ f' _ hpair => ?_) hpairs
    exact eq_of_shapeRow_eq (Prod.mk.inj hpair).1 (Prod.mk.inj hpair).2
  simpa using hparts

/-- Lists that are put together from parts of the same lengths have the same parts. -/
theorem eq_of_flatMap_eq {α β : Type} {f g : α → List β} {xs : List α}
    (hlen : ∀ x, (f x).length = (g x).length) (h : xs.flatMap f = xs.flatMap g) :
    ∀ x ∈ xs, f x = g x := by
  induction xs with
  | nil => simp
  | cons x xs ih =>
      obtain ⟨hhead, htail⟩ := List.append_inj (by simpa using h) (hlen x)
      simpa [hhead] using ih htail

namespace Plan

variable (plan : Plan)

/-- The contents of the modules of a record. -/
def recordContents (name : String) (fields : List Field) : List String :=
  (plan.renderRecord name fields).map (·.content)

/-- The modules of a record determine its fields. -/
theorem fields_eq_of_recordContents_eq {name : String} {fields fields' : List Field}
    (hfields : ∀ f ∈ fields, f.Plain) (hfields' : ∀ f ∈ fields', f.Plain)
    (h : plan.recordContents name fields = plan.recordContents name fields') :
    fields = fields' := by
  simp only [recordContents, renderRecord, Kind.perRecord, List.map_cons, List.cons.injEq] at h
  exact fields_eq_of_modules_eq hfields hfields' h.1 h.2.1

theorem contents_render (c : Catalogue) :
    (plan.render c).map (·.content) =
      c.names.flatMap (fun name => plan.recordContents name ((c.fields? name).getD [])) ++
        [(plan.renderRegistry c.names).content] := by
  simp [render, Catalogue.records, List.map_flatMap, List.flatMap_map, recordContents]

/-- Under any plan, two schemas whose modules have the same contents have the same names and the
same fields. The paths of the modules are not even needed. -/
theorem catalogue_eq_of_contents_eq {text text' filename filename' : String}
    {mapping mapping' : Bool} {c c' : Catalogue}
    (hread : Schema.read text filename mapping = .ok c)
    (hread' : Schema.read text' filename' mapping' = .ok c')
    (h : (plan.render c).map (·.content) = (plan.render c').map (·.content)) :
    c.names = c'.names ∧ c.fieldsByName = c'.fieldsByName := by
  have hplain := Schema.plain_of_read hread
  have hplain' := Schema.plain_of_read hread'
  rw [contents_render, contents_render] at h
  -- The registry comes last and tells the names; only then can the records be told apart.
  obtain ⟨hrecords, hregistry⟩ := List.append_inj' h rfl
  have hnames : c.names = c'.names :=
    names_eq_of_registry_eq hplain.names hplain'.names (List.singleton_inj.1 hregistry)
  have hfields : ∀ name ∈ c.names, (c.fields? name).getD [] = (c'.fields? name).getD [] := by
    have hlen : ∀ name, (plan.recordContents name ((c.fields? name).getD [])).length =
        (plan.recordContents name ((c'.fields? name).getD [])).length := fun _ => rfl
    rw [← hnames] at hrecords
    intro name hname
    exact plan.fields_eq_of_recordContents_eq
      (hplain.fields _ (List.mem_map_of_mem hname))
      (hplain'.fields _ (List.mem_map_of_mem (hnames ▸ hname)))
      (eq_of_flatMap_eq hlen hrecords name hname)
  exact ⟨hnames, (Schema.coherent_of_read hread).fieldsByName_eq
    (Schema.coherent_of_read hread') hnames hfields⟩

/-- Two texts with the same modules, of which one has a line that cannot be read. The alias of the
field has the separators of both shapes in it. -/
theorem catalogue_eq_of_contents_eq_renamed :
    let text := "model A \x7b\n  id Int @map(\"a!: b: undefined as c\")\n\x7d"
    let text' := "model B \x7b\n  k Int @map(\"a!: b: undefined as c\")\n  @@map(\"A\")\n  ?\n\x7d"
    ∃ c c' : Catalogue, c ≠ c' ∧ Schema.read text "first" true = .ok c ∧
      Schema.read text' "second" true = .ok c' ∧
      (Plan.default.render c).map (·.content) = (Plan.default.render c').map (·.content) ∧
      c.names = c'.names ∧ c.fieldsByName = c'.fieldsByName := by
  intro text text'
  let fields : List Field := [⟨"a!: b: undefined as c", "Int"⟩]
  let c : Catalogue := ⟨["A"], [("A", fields)], []⟩
  let c' : Catalogue := ⟨["A"], [("A", fields)], [⟨.unparsableLine "?" "B", "second:4"⟩]⟩
  have hread : Schema.read text "first" true = .ok c := by decide +kernel
  have hread' : Schema.read text' "second" true = .ok c' := by decide +kernel
  exact ⟨c, c', by decide, hread, hread', rfl,
    catalogue_eq_of_contents_eq Plan.default hread hread' rfl⟩

end Plan

end SchemaScribe.Artifact

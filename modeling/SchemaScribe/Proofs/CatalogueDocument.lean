import SchemaScribe.Proofs.CatalogueOfBlocks
import SchemaScribe.Proofs.JsonPrinting
import SchemaScribe.Proofs.RunEffects

/-!
# Reading a printed catalogue back

A check in JSON prints a catalogue as a document. What it shows of the catalogue is listed: the
names, the fields under each distinct name in order, and of each diagnostic the severity, the
message and the location. The list is found again by looking up the members of the document by
their keys. No object of the document has a key twice, since the entries of a catalogue that was
read have distinct names.
-/
namespace SchemaScribe

namespace Json

/-- No object, at any depth, has a key twice. -/
inductive KeysDistinct : Json → Prop where
  | null : KeysDistinct .null
  | text (s : String) : KeysDistinct (.text s)
  | list {items : List Json} (h : ∀ j ∈ items, KeysDistinct j) : KeysDistinct (.list items)
  | record {members : List (String × Json)} (hkeys : (members.map (·.1)).Nodup)
      (h : ∀ m ∈ members, KeysDistinct m.2) : KeysDistinct (.record members)

def text? : Json → Option String
  | .text s => some s
  | _ => none

def list? : Json → Option (List Json)
  | .list items => some items
  | _ => none

def record? : Json → Option (List (String × Json))
  | .record members => some members
  | _ => none

/-- The value under a key. -/
def entry? (j : Json) (key : String) : Option Json := do (← j.record?).lookup key

/-- A value that may be missing. -/
def orNull? {α : Type} (value? : Json → Option α) : Json → Option (Option α)
  | .null => some none
  | j => (value? j).map some

theorem orNull?_text (s? : Option String) :
    orNull? text? ((s?.map Json.text).getD .null) = some s? := by cases s? <;> rfl

theorem keysDistinct_textOrNull (s? : Option String) :
    KeysDistinct ((s?.map Json.text).getD .null) := by
  cases s? with
  | none => exact .null
  | some s => exact .text s

theorem keysDistinct_map {α : Type} {toJson : α → Json} (h : ∀ x, KeysDistinct (toJson x))
    (xs : List α) : KeysDistinct (.list (xs.map toJson)) := by
  refine .list fun j hj => ?_
  obtain ⟨x, -, rfl⟩ := List.mem_map.1 hj
  exact h x

/-- Items that are each decoded are decoded together. -/
theorem mapM_decode {α β γ : Type} {encode : α → β} {decode? : β → Option γ} {view : α → γ}
    (h : ∀ x, decode? (encode x) = some (view x)) (xs : List α) :
    (xs.map encode).mapM decode? = some (xs.map view) := by
  induction xs with
  | nil => rfl
  | cons x xs ih => simp [h, ih]

end Json

namespace Schema

/-- What is shown of a diagnostic. -/
structure Remark where
  severity : Severity
  message : String
  location : Option String
  deriving DecidableEq, Repr

/-- What is shown of a catalogue. -/
structure Listing where
  names : List String
  fieldsByName : List (String × List Field)
  remarks : List Remark
  deriving DecidableEq, Repr

def Diagnostic.remark (d : Diagnostic) : Remark := ⟨d.severity, d.message, d.location⟩

def Catalogue.listing (c : Catalogue) : Listing :=
  ⟨c.names, c.fieldsByName, c.diagnostics.map (·.remark)⟩

def Severity.ofWord? (word : String) : Option Severity :=
  [Severity.warning, .info].find? (·.word = word)

def Field.ofJson? (j : Json) : Option Field := do
  some ⟨← (← j.entry? "name").text?, ← (← j.entry? "type").text?⟩

def Remark.ofJson? (j : Json) : Option Remark := do
  let severity ← Severity.ofWord? (← (← j.entry? "severity").text?)
  let message ← (← j.entry? "message").text?
  some ⟨severity, message, ← (← j.entry? "location").orNull? Json.text?⟩

/-- A name and the fields under it. -/
def entryOfJson? (m : String × Json) : Option (String × List Field) := do
  some (m.1, ← (← m.2.list?).mapM Field.ofJson?)

/-- Looks the parts of a listing up in a document. -/
def Listing.ofJson? (j : Json) : Option Listing := do
  let names ← (← (← j.entry? "table_names").list?).mapM Json.text?
  let entries ← (← (← j.entry? "fields_by_table").record?).mapM entryOfJson?
  some ⟨names, entries, ← (← (← j.entry? "diagnostics").list?).mapM Remark.ofJson?⟩

theorem Severity.ofWord?_word (s : Severity) : Severity.ofWord? s.word = some s := by
  cases s <;> decide

theorem Field.ofJson?_toJson (f : Field) : Field.ofJson? f.toJson = some f := by
  simp [Field.ofJson?, Field.toJson, Json.entry?, Json.record?, Json.text?, List.lookup_cons]

theorem Remark.ofJson?_toJson (d : Diagnostic) : Remark.ofJson? d.toJson = some d.remark := by
  simp [Remark.ofJson?, Diagnostic.toJson, Json.entry?, Json.record?, Json.text?, List.lookup_cons,
    Severity.ofWord?_word, Json.orNull?_text, Diagnostic.remark]

theorem entryOfJson?_toJson (entry : String × List Field) :
    entryOfJson? (entry.1, .list (entry.2.map (·.toJson))) = some entry := by
  have hfields := Json.mapM_decode Field.ofJson?_toJson entry.2
  simp [entryOfJson?, Json.list?, hfields]

/-- Encoding a catalogue loses nothing of what is shown of it. -/
theorem Listing.ofJson?_toJson (c : Catalogue) : Listing.ofJson? c.toJson = some c.listing := by
  have hnames := Json.mapM_decode (fun _ => rfl : ∀ s, Json.text? (.text s) = some s) c.names
  have hentries := Json.mapM_decode entryOfJson?_toJson c.fieldsByName
  have hremarks := Json.mapM_decode Remark.ofJson?_toJson c.diagnostics
  simp [Listing.ofJson?, Catalogue.toJson, Json.entry?, Json.record?, Json.list?, List.lookup_cons,
    hnames, hentries, hremarks, Catalogue.listing]

theorem Field.keysDistinct_toJson (f : Field) : f.toJson.KeysDistinct := by
  refine .record (by simp) ?_
  simp [Json.KeysDistinct.text]

theorem Diagnostic.keysDistinct_toJson (d : Diagnostic) : d.toJson.KeysDistinct := by
  refine .record (by simp) ?_
  simp [Json.KeysDistinct.text, Json.keysDistinct_textOrNull]

/-- Beside the names of the entries all keys are fixed. -/
theorem Catalogue.Coherent.keysDistinct_toJson {c : Catalogue} (h : c.Coherent) :
    c.toJson.KeysDistinct := by
  have hnames := Json.keysDistinct_map Json.KeysDistinct.text c.names
  have hremarks := Json.keysDistinct_map Diagnostic.keysDistinct_toJson c.diagnostics
  have hentries : Json.KeysDistinct (.record (c.fieldsByName.map fun entry =>
      (entry.1, .list (entry.2.map (·.toJson))))) := by
    refine .record ?_ fun m hm => ?_
    · rw [List.map_map]
      exact h.nodup_keys
    · obtain ⟨entry, -, rfl⟩ := List.mem_map.1 hm
      exact Json.keysDistinct_map Field.keysDistinct_toJson entry.2
  refine .record (by simp) ?_
  simpa using ⟨hnames, hentries, hremarks⟩

end Schema

namespace Run

open CommandLine (Invocation)
open FileTree (run_bind)
open Settings (File Flags Resolved)

/-- A call that asks for a check in JSON, and the settings that it has in a tree. -/
structure JsonCheck (t : FileTree) where
  args : List String
  verbosity : Nat
  config? : Option Path
  flags : Flags
  file? : Option File
  settings : Resolved
  asks : Invocation.ofArguments args = .ok ⟨verbosity, .check config? flags true⟩
  loads : settingsIn t config? = .ok file?
  resolves : Settings.resolve flags file? (config?.getD Settings.defaultFile) = .ok settings

/-- The call prints the catalogue of the schema that its settings name, and nothing else. -/
theorem JsonCheck.run_eq {t : FileTree} (k : JsonCheck t) {text : String} {c : Schema.Catalogue}
    (htext : t.text k.settings.schema = .ok text)
    (hread : Schema.read text k.settings.schema.text k.settings.plan.useMapping = .ok c) :
    ∃ events, (run FileTree.disk k.args).run t =
      (.finished k.verbosity ⟨events, c.toJson.pretty ++ "\n", [], none⟩, t) := by
  obtain ⟨events, hopened⟩ :
      ∃ events, openedIn t k.config? k.flags = (events, .ok ⟨k.settings, c⟩) := by
    simp only [openedIn, schemaIn, k.loads, k.resolves, htext, hread]
    exact ⟨_, rfl⟩
  refine ⟨events.filter (·.origin = .reading), ?_⟩
  rw [run_of_check k.asks]
  unfold check
  rw [run_bind, run_openSchema, hopened]
  rfl

end Run

namespace Schema

/-- The document that a check prints for a catalogue that was read is for one value only. No object
of that value has a key twice, and looking its parts up gives what is shown of the catalogue. -/
theorem printed_catalogue_reads_back {text filename : String} {mapping : Bool} {c : Catalogue}
    (hread : read text filename mapping = .ok c) :
    let printed := c.toJson.pretty ++ "\n"
    (∀ (t : FileTree) (k : Run.JsonCheck t), t.text k.settings.schema = .ok text →
      k.settings.schema.text = filename → k.settings.plan.useMapping = mapping →
      ∃ events, (Run.run FileTree.disk k.args).run t =
        (.finished k.verbosity ⟨events, printed, [], none⟩, t)) ∧
    ∃ doc, (∀ j, Json.Document printed j ↔ j = doc) ∧ Json.read? printed = some doc ∧
      doc.KeysDistinct ∧ Listing.ofJson? doc = some c.listing := by
  have hdocument := Json.document_pretty c.toJson
  refine ⟨?_, c.toJson, fun j => ⟨fun hj => ?_, ?_⟩, hdocument.read?_eq,
    (coherent_of_read hread).keysDistinct_toJson, Listing.ofJson?_toJson c⟩
  · rintro t k htext rfl rfl
    exact k.run_eq htext hread
  · exact Option.some.inj (hj.read?_eq.symm.trans hdocument.read?_eq)
  · rintro rfl
    exact hdocument

/-- A schema with quotes, backslashes, control characters and a character outside the first plane,
in a name that is declared twice, in an alias of a field and in a line that is no field. -/
def oddSchema : String :=
  "model A \x7b\n  \"q\\\x01 é😀\n  x Int\n  @@map(\"b\\c\")\n\x7d\n" ++
    "model B \x7b\n  y A[]? @map(\"u\x1f\t\")\n  @@map(\"b\\c\")\n\x7d"

def oddCatalogue : Catalogue where
  names := ["b\\c", "b\\c"]
  fieldsByName := [("b\\c", [⟨"u\x1f\t", "A[]?"⟩])]
  diagnostics := [⟨.unparsableLine "\"q\\\x01 é😀" "A", some "s:2"⟩,
    ⟨.redeclaredModel "b\\c", some "s:6"⟩]

def oddListing : Listing where
  names := ["b\\c", "b\\c"]
  fieldsByName := [("b\\c", [⟨"u\x1f\t", "A[]?"⟩])]
  remarks := [⟨.warning, "unparsable field line '\"q\\\x01 é😀' in model A", some "s:2"⟩,
    ⟨.info, "model b\\c is declared again; its fields replace the earlier block", some "s:6"⟩]

def oddTree : FileTree where
  here := ["work"]
  entries := [(["work"], .directory), (["s", "work"], .file oddSchema.toUTF8)]

def oddCheck : Run.JsonCheck oddTree where
  args := ["check", "--json", "--mapping", "-s", "s"]
  verbosity := 0
  config? := none
  flags := { Settings.Flags.none with schema := some ⟨"s"⟩, useMapping := true }
  file? := none
  settings := ⟨⟨"s"⟩, { Artifact.Plan.default with useMapping := true }⟩
  asks := by rfl
  loads := by rfl
  resolves := by rfl

theorem read_oddSchema :
    oddTree.text ⟨"s"⟩ = .ok oddSchema ∧ read oddSchema "s" true = .ok oddCatalogue := by
  decide +kernel

theorem printed_catalogue_reads_back_odd :
    read oddSchema "s" true = .ok oddCatalogue ∧
    ∃ events printed doc,
      (Run.run FileTree.disk ["check", "--json", "--mapping", "-s", "s"]).run oddTree =
        (.finished 0 ⟨events, printed, [], none⟩, oddTree) ∧
      Json.Document printed doc ∧ Json.read? printed = some doc ∧ doc.KeysDistinct ∧
      Listing.ofJson? doc = some oddListing := by
  obtain ⟨htext, hread⟩ := read_oddSchema
  obtain ⟨hrun, doc, hdocument, hback, hkeys, hlisting⟩ := printed_catalogue_reads_back hread
  obtain ⟨events, hrun⟩ := hrun oddTree oddCheck htext rfl rfl
  have hshown : oddCatalogue.listing = oddListing := by decide
  exact ⟨hread, events, _, doc, hrun, (hdocument doc).2 rfl, hback, hkeys, hshown ▸ hlisting⟩

end Schema

end SchemaScribe

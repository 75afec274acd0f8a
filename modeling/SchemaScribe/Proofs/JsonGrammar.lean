import SchemaScribe.Json
import SchemaScribe.Proofs.CharacterClasses
import SchemaScribe.Text.Literal

/-!
# The grammar of JSON documents, and a reader

The grammar is the standard one, without numbers and truth values, which no document here has. A
relation of the grammar says what stands at the head of a text and what follows it. White space may
stand around every token. A character may be written in several ways: as it is, by a short escape,
by its code in hexadecimal digits, or as a pair of such codes.

The reader goes through a document once. It reads every document of the grammar as the value that
the document is for, hence no document is for two values.
-/
namespace SchemaScribe.Json

/-- White space between tokens. -/
def isBlank (c : Char) : Bool := c = ' ' || c = '\t' || c = '\n' || c = '\r'

/-- Only white space comes before the rest. -/
def Blanks (cs rest : List Char) : Prop := ∃ blanks, (∀ c ∈ blanks, isBlank c) ∧ cs = blanks ++ rest

/-- The value of a hexadecimal digit. -/
def hexDigit? (c : Char) : Option Nat :=
  if '0' ≤ c ∧ c ≤ '9' then some (c.toNat - '0'.toNat)
  else if 'a' ≤ c ∧ c ≤ 'f' then some (c.toNat - 'a'.toNat + 10)
  else if 'A' ≤ c ∧ c ≤ 'F' then some (c.toNat - 'A'.toNat + 10)
  else none

/-- The escapes of one character, and the characters they are for. -/
def shortEscapes : List (Char × Char) :=
  [('"', '"'), ('\\', '\\'), ('/', '/'), ('b', '\x08'), ('f', '\x0c'), ('n', '\n'), ('r', '\r'),
    ('t', '\t')]

/-- A code of four hexadecimal digits. -/
inductive Code : Nat → List Char → List Char → Prop where
  | digits {a b c d : Char} {i j k l : Nat} (rest : List Char) (ha : hexDigit? a = some i)
      (hb : hexDigit? b = some j) (hc : hexDigit? c = some k) (hd : hexDigit? d = some l) :
      Code (((i * 16 + j) * 16 + k) * 16 + l) (a :: b :: c :: d :: rest) rest

/-- The codes that stand for a character only in pairs. -/
def IsHigh (n : Nat) : Prop := 0xD800 ≤ n ∧ n < 0xDC00

def IsLow (n : Nat) : Prop := 0xDC00 ≤ n ∧ n < 0xE000

instance (n : Nat) : Decidable (IsHigh n) := inferInstanceAs (Decidable (_ ∧ _))

instance (n : Nat) : Decidable (IsLow n) := inferInstanceAs (Decidable (_ ∧ _))

def pairedCode (high low : Nat) : Nat := 0x10000 + (high - 0xD800) * 0x400 + (low - 0xDC00)

/-- One character inside quotes. -/
inductive Spelling : Char → List Char → List Char → Prop where
  | plain {c : Char} (rest : List Char) (hblank : ' ' ≤ c) (hquote : c ≠ '"') (hslash : c ≠ '\\') :
      Spelling c (c :: rest) rest
  | short {e c : Char} (rest : List Char) (h : (e, c) ∈ shortEscapes) :
      Spelling c ('\\' :: e :: rest) rest
  | code {n : Nat} {cs rest : List Char} (hcode : Code n cs rest) (hvalid : n.isValidChar) :
      Spelling (Char.ofNat n) ('\\' :: 'u' :: cs) rest
  | pair {high low : Nat} {cs next rest : List Char} (hhigh : Code high cs ('\\' :: 'u' :: next))
      (hlow : Code low next rest) (h : IsHigh high ∧ IsLow low) :
      Spelling (Char.ofNat (pairedCode high low)) ('\\' :: 'u' :: cs) rest

/-- What follows an opening quote, up to the closing one. -/
inductive Body : List Char → List Char → List Char → Prop where
  | close (rest : List Char) : Body [] ('"' :: rest) rest
  | char {c : Char} {s cs next rest : List Char} (hchar : Spelling c cs next)
      (hbody : Body s next rest) : Body (c :: s) cs rest

/-- At least one item, with commas between the items, up to a closing bracket. -/
inductive Row {α : Type} (Item : α → List Char → List Char → Prop) (close : Char) :
    List α → List Char → List Char → Prop where
  | last {x : α} {cs start stop rest : List Char} (hbefore : Blanks cs start)
      (hitem : Item x start stop) (hafter : Blanks stop (close :: rest)) :
      Row Item close [x] cs rest
  | more {x : α} {xs : List α} {cs start stop next rest : List Char} (hbefore : Blanks cs start)
      (hitem : Item x start stop) (hafter : Blanks stop (',' :: next))
      (hrow : Row Item close xs next rest) : Row Item close (x :: xs) cs rest

/-- A key in quotes, a colon and a value. -/
inductive Member (Value : Json → List Char → List Char → Prop) :
    String × Json → List Char → List Char → Prop where
  | pair {key cs stop behind start rest : List Char} {j : Json} (hkey : Body key cs stop)
      (hcolon : Blanks stop (':' :: behind)) (hbefore : Blanks behind start)
      (hvalue : Value j start rest) : Member Value (String.ofList key, j) ('"' :: cs) rest

inductive Value : Json → List Char → List Char → Prop where
  | null (rest : List Char) : Value .null ('n' :: 'u' :: 'l' :: 'l' :: rest) rest
  | text {s cs rest : List Char} (h : Body s cs rest) :
      Value (.text (String.ofList s)) ('"' :: cs) rest
  | emptyList {cs rest : List Char} (h : Blanks cs (']' :: rest)) :
      Value (.list []) ('[' :: cs) rest
  | list {items : List Json} {cs rest : List Char} (h : Row Value ']' items cs rest) :
      Value (.list items) ('[' :: cs) rest
  | emptyRecord {cs rest : List Char} (h : Blanks cs ('\x7d' :: rest)) :
      Value (.record []) ('\x7b' :: cs) rest
  | record {members : List (String × Json)} {cs rest : List Char}
      (h : Row (Member Value) '\x7d' members cs rest) : Value (.record members) ('\x7b' :: cs) rest

/-- A document for a value. -/
def Document (s : String) (j : Json) : Prop :=
  ∃ start stop, Blanks s.toList start ∧ Value j start stop ∧ Blanks stop []

/-- Whatever keeps the rules of the grammar holds of all its values. -/
theorem Value.induction {P : Json → List Char → List Char → Prop}
    (null : ∀ rest, P .null ('n' :: 'u' :: 'l' :: 'l' :: rest) rest)
    (text : ∀ {s cs rest}, Body s cs rest → P (.text (String.ofList s)) ('"' :: cs) rest)
    (emptyList : ∀ {cs rest}, Blanks cs (']' :: rest) → P (.list []) ('[' :: cs) rest)
    (list : ∀ {items cs rest}, Row P ']' items cs rest → P (.list items) ('[' :: cs) rest)
    (emptyRecord : ∀ {cs rest}, Blanks cs ('\x7d' :: rest) → P (.record []) ('\x7b' :: cs) rest)
    (record : ∀ {members cs rest}, Row (Member P) '\x7d' members cs rest →
      P (.record members) ('\x7b' :: cs) rest)
    {j : Json} {cs rest : List Char} (h : Value j cs rest) : P j cs rest :=
  @Value.rec (fun j cs rest _ => P j cs rest) (fun items cs rest _ => Row P ']' items cs rest)
    (fun members cs rest _ => Row (Member P) '\x7d' members cs rest)
    (fun m cs rest _ => Member P m cs rest) null text emptyList (fun _ hrow => list hrow)
    emptyRecord (fun _ hrow => record hrow)
    (fun hbefore _ hafter hitem => .last hbefore hitem hafter)
    (fun hbefore _ hafter _ hitem hrow => .more hbefore hitem hafter hrow)
    (fun hbefore _ hafter hitem => .last hbefore hitem hafter)
    (fun hbefore _ hafter _ hitem hrow => .more hbefore hitem hafter hrow)
    (fun hkey hcolon hbefore _ hvalue => .pair hkey hcolon hbefore hvalue) j cs rest h

/-- The text behind white space. -/
def skip (cs : List Char) : List Char := cs.dropWhile isBlank

/-- Reads a code of four hexadecimal digits. -/
def code? : List Char → Option (Nat × List Char)
  | a :: b :: c :: d :: rest => do
      let i ← hexDigit? a
      let j ← hexDigit? b
      let k ← hexDigit? c
      let l ← hexDigit? d
      some (((i * 16 + j) * 16 + k) * 16 + l, rest)
  | _ => none

/-- Reads what follows the start of an escape with a code. -/
def coded? (cs : List Char) : Option (Char × List Char) := do
  let (high, rest) ← code? cs
  if high.isValidChar then some (Char.ofNat high, rest)
  else do
    let next ← Text.after? ['\\', 'u'] rest
    let (low, rest) ← code? next
    if IsHigh high ∧ IsLow low then some (Char.ofNat (pairedCode high low), rest) else none

/-- Reads one character inside quotes. -/
def char? : List Char → Option (Char × List Char)
  | [] => none
  | c :: rest =>
      if c = '\\' then
        if rest.head? = some 'u' then coded? rest.tail
        else do
          let c ← shortEscapes.lookup (← rest.head?)
          some (c, rest.tail)
      else if c = '"' ∨ c < ' ' then none
      else some (c, rest)

/-- Reads what follows an opening quote. -/
def body? : Nat → List Char → Option (List Char × List Char)
  | 0, _ => none
  | fuel + 1, cs =>
      if cs.head? = some '"' then some ([], cs.tail)
      else do
        let (c, next) ← char? cs
        let (s, rest) ← body? fuel next
        some (c :: s, rest)

/-- Reads a text in quotes. -/
def quoted? (cs : List Char) : Option (String × List Char) :=
  if cs.head? = some '"' then
    (body? cs.length cs.tail).map fun (s, rest) => (String.ofList s, rest)
  else none

section

variable {α : Type} (item? : List Char → Option (α × List Char)) (close : Char)

/-- Reads items and what stands between them. -/
def items? : Nat → List Char → Option (List α × List Char)
  | 0, _ => none
  | fuel + 1, cs => do
      let (x, stop) ← item? (skip cs)
      let next := skip stop
      if next.head? = some close then some ([x], next.tail)
      else if next.head? = some ',' then do
        let (xs, rest) ← items? fuel next.tail
        some (x :: xs, rest)
      else none

/-- Reads what follows an opening bracket. -/
def row? (cs : List Char) : Option (List α × List Char) :=
  if (skip cs).head? = some close then some ([], (skip cs).tail)
  else items? item? close cs.length cs

end

/-- Reads a key, a colon and a value. -/
def member? (value? : List Char → Option (Json × List Char)) (cs : List Char) :
    Option ((String × Json) × List Char) := do
  let (key, stop) ← quoted? cs
  if (skip stop).head? = some ':' then do
    let (j, rest) ← value? (skip (skip stop).tail)
    some ((key, j), rest)
  else none

/-- Reads a value that is nested no deeper than a bound. -/
def value? : Nat → List Char → Option (Json × List Char)
  | 0, _ => none
  | depth + 1, cs =>
      if cs.head? = some '"' then (quoted? cs).map fun (s, rest) => (.text s, rest)
      else if cs.head? = some '[' then
        (row? (value? depth) ']' cs.tail).map fun (items, rest) => (.list items, rest)
      else if cs.head? = some '\x7b' then
        (row? (member? (value? depth)) '\x7d' cs.tail).map fun (members, rest) =>
          (.record members, rest)
      else (Text.after? ['n', 'u', 'l', 'l'] cs).map fun rest => (.null, rest)

/-- Reads a document. -/
def read? (s : String) : Option Json := do
  let (j, stop) ← value? s.toList.length (skip s.toList)
  if skip stop = [] then some j else none

variable {cs rest : List Char}

theorem Blanks.refl (cs : List Char) : Blanks cs cs := ⟨[], by simp, rfl⟩

theorem Blanks.skip_eq (h : Blanks cs rest) (hrest : ∀ c ∈ rest.head?, isBlank c = false) :
    skip cs = rest := by
  obtain ⟨blanks, hblanks, rfl⟩ := h
  exact Unicode.dropWhile_run hblanks hrest

theorem Blanks.skip_eq_cons {c : Char} (h : Blanks cs (c :: rest)) (hc : isBlank c = false) :
    skip cs = c :: rest := h.skip_eq (by simpa using hc)

theorem Blanks.length_le (h : Blanks cs rest) : rest.length ≤ cs.length := by
  obtain ⟨blanks, -, rfl⟩ := h
  rw [List.length_append]
  omega

theorem Code.code?_eq {n : Nat} (h : Code n cs rest) : code? cs = some (n, rest) := by
  cases h with
  | digits rest ha hb hc hd => simp [code?, ha, hb, hc, hd]

theorem Code.length_lt {n : Nat} (h : Code n cs rest) : rest.length < cs.length := by
  cases h with
  | digits rest ha hb hc hd =>
      simp only [List.length_cons]
      omega

/-- Codes that stand in pairs are no characters. -/
theorem IsHigh.not_isValidChar {n : Nat} (h : IsHigh n) : ¬n.isValidChar := by
  unfold IsHigh at h
  unfold Nat.isValidChar
  omega

theorem Spelling.char?_eq {c : Char} (h : Spelling c cs rest) : char? cs = some (c, rest) := by
  cases h with
  | plain rest hblank hquote hslash => simp [char?, hslash, hquote, hblank]
  | @short e c rest h =>
      have hall : shortEscapes.all (fun m =>
          m.1 != 'u' && shortEscapes.lookup m.1 == some m.2) = true := by decide
      have hentry := List.all_eq_true.1 hall (e, c) h
      rw [Bool.and_eq_true, bne_iff_ne, beq_iff_eq] at hentry
      simp [char?, hentry.1, hentry.2]
  | code hcode hvalid => simp [char?, coded?, hcode.code?_eq, hvalid]
  | pair hhigh hlow h =>
      simp [char?, coded?, hhigh.code?_eq, hlow.code?_eq, h.1.not_isValidChar, h, Text.after?]

theorem Spelling.length_lt {c : Char} (h : Spelling c cs rest) : rest.length < cs.length := by
  cases h with
  | plain | short => simp only [List.length_cons]; omega
  | code hcode hvalid =>
      have := hcode.length_lt
      simp only [List.length_cons]
      omega
  | pair hhigh hlow h =>
      have := hhigh.length_lt
      have := hlow.length_lt
      simp only [List.length_cons] at *
      omega

theorem Spelling.head?_ne {c : Char} (h : Spelling c cs rest) : cs.head? ≠ some '"' := by
  cases h with
  | plain rest hblank hquote hslash => simpa using hquote
  | short | code | pair => simp

theorem Body.length_lt {s : List Char} (h : Body s cs rest) : rest.length < cs.length := by
  induction h with
  | close rest => simp
  | char hchar hbody ih => exact Nat.lt_trans ih hchar.length_lt

theorem Body.body?_eq {s : List Char} (h : Body s cs rest) {fuel : Nat} (hfuel : cs.length ≤ fuel) :
    body? fuel cs = some (s, rest) := by
  induction h generalizing fuel with
  | close rest =>
      obtain ⟨fuel, rfl⟩ : ∃ n, fuel = n + 1 := Nat.exists_eq_succ_of_ne_zero (by
        simp only [List.length_cons] at hfuel
        omega)
      simp [body?]
  | @char c s cs next rest hchar hbody ih =>
      have hlt := hchar.length_lt
      obtain ⟨fuel, rfl⟩ : ∃ n, fuel = n + 1 := Nat.exists_eq_succ_of_ne_zero (by omega)
      have hnext : body? fuel next = some (s, rest) := ih (by omega)
      simp [body?, hchar.head?_ne, hchar.char?_eq, hnext]

theorem Body.quoted?_eq {s : List Char} (h : Body s cs rest) :
    quoted? ('"' :: cs) = some (String.ofList s, rest) := by
  have hbody : body? ('"' :: cs).length cs = some (s, rest) := h.body?_eq (by simp)
  simp only [quoted?, List.head?_cons, if_true, List.tail_cons, hbody, Option.map_some]

/-- The characters that a value can start with. -/
def opensValue (c : Char) : Bool := c = 'n' || c = '"' || c = '[' || c = '\x7b'

/-- Something is read from the head of a text, which is no white space and no closing bracket. -/
structure Reads {α : Type} (item? : List Char → Option (α × List Char)) (x : α)
    (cs rest : List Char) : Prop where
  read_eq : item? cs = some (x, rest)
  length_lt : rest.length < cs.length
  opens : ∃ c tail, cs = c :: tail ∧ opensValue c = true

section

variable {α : Type} {item? : List Char → Option (α × List Char)} {x : α}

theorem Reads.skip_eq {start stop : List Char} (h : Reads item? x start stop)
    (hbefore : Blanks cs start) : skip cs = start := by
  obtain ⟨c, tail, rfl, hc⟩ := h.opens
  refine hbefore.skip_eq_cons ?_
  simp only [opensValue, Bool.or_eq_true, decide_eq_true_eq] at hc
  rcases hc with ((rfl | rfl) | rfl) | rfl <;> rfl

theorem Reads.opens_skip {start stop : List Char} (h : Reads item? x start stop)
    (hbefore : Blanks cs start) : ∃ c tail, skip cs = c :: tail ∧ opensValue c = true := by
  rw [h.skip_eq hbefore]
  exact h.opens

/-- A row of items is read by reading its items. -/
theorem Row.reads {Item : α → List Char → List Char → Prop} {close : Char} {xs : List α}
    (h : Row Item close xs cs rest) (hclose : close = ']' ∨ close = '\x7d')
    {bound : Nat} (hbound : cs.length ≤ bound)
    (hread : ∀ {x cs rest}, Item x cs rest → cs.length ≤ bound → Reads item? x cs rest) :
    rest.length < cs.length ∧ (∃ c tail, skip cs = c :: tail ∧ opensValue c = true) ∧
      ∀ fuel, cs.length ≤ fuel → items? item? close fuel cs = some (xs, rest) := by
  have hblank : isBlank close = false := by rcases hclose with rfl | rfl <;> rfl
  have hcomma : ',' ≠ close := by rcases hclose with rfl | rfl <;> decide
  -- The text gets shorter from item to item, while the bound on what is read stays.
  induction h with
  | @last x cs start stop rest hbefore hitem hafter =>
      have hstart := hbefore.length_le
      have hx := hread hitem (by omega)
      have hskip := hx.skip_eq hbefore
      have hstop := hafter.skip_eq_cons hblank
      have hlt := hx.length_lt
      have hrest := hafter.length_le
      rw [List.length_cons] at hrest
      refine ⟨by omega, hx.opens_skip hbefore, fun fuel hfuel => ?_⟩
      obtain ⟨fuel, rfl⟩ : ∃ n, fuel = n + 1 := Nat.exists_eq_succ_of_ne_zero (by omega)
      simp [items?, hskip, hx.read_eq, hstop]
  | @more x xs cs start stop next rest hbefore hitem hafter hrow ih =>
      have hstart := hbefore.length_le
      have hx := hread hitem (by omega)
      have hskip := hx.skip_eq hbefore
      have hstop := hafter.skip_eq_cons rfl
      have hlt := hx.length_lt
      have hnext := hafter.length_le
      rw [List.length_cons] at hnext
      obtain ⟨hrest, -, hitems⟩ := ih (by omega)
      refine ⟨by omega, hx.opens_skip hbefore, fun fuel hfuel => ?_⟩
      obtain ⟨fuel, rfl⟩ : ∃ n, fuel = n + 1 := Nat.exists_eq_succ_of_ne_zero (by omega)
      simp [items?, hskip, hx.read_eq, hstop, hcomma, hitems fuel (by omega)]

theorem Row.row?_eq {Item : α → List Char → List Char → Prop} {close : Char} {xs : List α}
    (h : Row Item close xs cs rest) (hclose : close = ']' ∨ close = '\x7d')
    (hread : ∀ {x start stop}, Item x start stop → start.length ≤ cs.length →
      Reads item? x start stop) :
    row? item? close cs = some (xs, rest) ∧ rest.length < cs.length := by
  obtain ⟨hlt, ⟨c, tail, hskip, hc⟩, hitems⟩ := h.reads hclose (Nat.le_refl _) hread
  have hne : c ≠ close := by
    rintro rfl
    rcases hclose with rfl | rfl <;> exact absurd hc (by decide)
  exact ⟨by simp [row?, hskip, hne, hitems], hlt⟩

theorem Blanks.row?_eq {close : Char} (h : Blanks cs (close :: rest))
    (hclose : close = ']' ∨ close = '\x7d') : row? item? close cs = some ([], rest) := by
  have hskip : skip cs = close :: rest :=
    h.skip_eq_cons (by rcases hclose with rfl | rfl <;> rfl)
  simp [row?, hskip]

end

/-- Members are read by reading their values. -/
theorem Member.reads {Item : Json → List Char → List Char → Prop} {m : String × Json}
    {item? : List Char → Option (Json × List Char)} (h : Member Item m cs rest)
    (hread : ∀ {j start stop}, Item j start stop → start.length ≤ cs.length →
      Reads item? j start stop) :
    Reads (member? item?) m cs rest := by
  cases h with
  | @pair key cs stop behind start rest j hkey hcolon hbefore hvalue =>
      have hstop := hkey.length_lt
      have hbehind := hcolon.length_le
      have hstart := hbefore.length_le
      rw [List.length_cons] at hbehind
      have hj := hread hvalue (by rw [List.length_cons]; omega)
      have hrest := hj.length_lt
      refine ⟨?_, by rw [List.length_cons]; omega, '"', cs, rfl, rfl⟩
      simp [member?, hkey.quoted?_eq, hcolon.skip_eq_cons rfl, hj.skip_eq hbefore, hj.read_eq]

/-- A value is read if the reader gets it from its first character on, with one level left. -/
theorem reads_of_opens {c : Char} {j : Json} {depth : Nat} (hdepth : (c :: cs).length ≤ depth)
    (hopens : opensValue c = true) (hle : rest.length ≤ cs.length)
    (hread : ∀ depth, cs.length ≤ depth → value? (depth + 1) (c :: cs) = some (j, rest)) :
    Reads (value? depth) j (c :: cs) rest := by
  rw [List.length_cons] at hdepth
  obtain ⟨depth, rfl⟩ : ∃ n, depth = n + 1 := Nat.exists_eq_succ_of_ne_zero (by omega)
  exact ⟨hread depth (by omega), by rw [List.length_cons]; omega, c, cs, rfl, hopens⟩

/-- The reader reads each value of the grammar as the grammar says. -/
theorem Value.reads {j : Json} (h : Value j cs rest) :
    ∀ depth, cs.length ≤ depth → Reads (value? depth) j cs rest := by
  refine Value.induction (P := fun j cs rest => ∀ depth, cs.length ≤ depth →
    Reads (value? depth) j cs rest) ?null ?text ?emptyList ?list ?emptyRecord ?record h
  case null =>
    intro rest depth hdepth
    refine reads_of_opens hdepth rfl ?_ fun depth _ => by simp [value?, Text.after?]
    simp only [List.length_cons]
    omega
  case text =>
    intro s cs rest hbody depth hdepth
    refine reads_of_opens hdepth rfl (Nat.le_of_lt hbody.length_lt) fun depth _ => ?_
    simp [value?, hbody.quoted?_eq]
  case emptyList =>
    intro cs rest hblanks depth hdepth
    have hle := hblanks.length_le
    rw [List.length_cons] at hle
    refine reads_of_opens hdepth rfl (by omega) fun depth _ => ?_
    simp [value?, hblanks.row?_eq]
  case list =>
    intro items cs rest hrow depth hdepth
    have hread : ∀ depth, cs.length ≤ depth →
        row? (value? depth) ']' cs = some (items, rest) ∧ rest.length < cs.length :=
      fun depth hdepth => hrow.row?_eq (Or.inl rfl) fun hitem hle =>
        hitem depth (Nat.le_trans hle hdepth)
    have hlt := (hread _ (Nat.le_refl _)).2
    refine reads_of_opens hdepth rfl (Nat.le_of_lt hlt) fun depth hdepth => ?_
    simp [value?, (hread depth hdepth).1]
  case emptyRecord =>
    intro cs rest hblanks depth hdepth
    have hle := hblanks.length_le
    rw [List.length_cons] at hle
    refine reads_of_opens hdepth rfl (by omega) fun depth _ => ?_
    simp [value?, hblanks.row?_eq]
  case record =>
    intro members cs rest hrow depth hdepth
    have hread : ∀ depth, cs.length ≤ depth →
        row? (member? (value? depth)) '\x7d' cs = some (members, rest) ∧
          rest.length < cs.length :=
      fun depth hdepth => hrow.row?_eq (Or.inr rfl) fun hmember hle =>
        hmember.reads fun hitem hle' =>
          hitem depth (Nat.le_trans hle' (Nat.le_trans hle hdepth))
    have hlt := (hread _ (Nat.le_refl _)).2
    refine reads_of_opens hdepth rfl (Nat.le_of_lt hlt) fun depth hdepth => ?_
    simp [value?, (hread depth hdepth).1]

/-- Every document is read as the value it is for. -/
theorem Document.read?_eq {s : String} {j : Json} (h : Document s j) : read? s = some j := by
  obtain ⟨start, stop, hbefore, hvalue, hafter⟩ := h
  have hreads := hvalue.reads _ hbefore.length_le
  have hstop : skip stop = [] := hafter.skip_eq (by simp)
  simp [read?, hreads.skip_eq hbefore, hreads.read_eq, hstop]

end SchemaScribe.Json

import Netdata.Stream.Capabilities
import Mathlib.Data.Nat.Digits
/-!
# Chart definitions on the wire

The `CHART`, `CLABEL`, `DIMENSION`, `CHART_DEFINITION_END` and `LABEL` lines that
`rrdpush_send_chart_definition`, `send_clabels_callback` and `send_labels_callback`
(`src/streaming/rrdpush.c`) write, and the word splitter of §6 of the spec that the parent reads
them with. Every line is a verb and its fields, each after one space, as the format strings lay
them out: `"%s"` fields between double quotes with nothing escaped, `%d` fields in decimal.

- `words_line`: the splitter gives back every field of a line whose strings hold no double
  quote and no backslash.
- `read_block_block`: a block of lines none of which holds a newline is read back line by line.
- `chart_definition_read_back`: so is the definition of a chart whose strings hold no double
  quote, no backslash and no newline, and so are the `LABEL` lines of such host labels.
- `quote_in_title_splits_chart`: a title holding a double quote ends its field early.
-/

namespace Netdata.Stream.Definition

/-! ## Lines -/

/-- A field as `buffer_sprintf` writes it: `"%s"`, `%d`, or a word written as is (`=`, or
`SLOT:` with the slot). -/
inductive Field where
  | str (s : String)
  | int (n : Int)
  | word (w : String)
  deriving DecidableEq, Repr

def Field.render : Field → List Char
  | .str s => '"' :: s.toList ++ ['"']
  | .int n => (toString n).toList
  | .word w => w.toList

/-- The value the encoder put in the field: the string, or the number's decimal text. -/
def Field.value : Field → List Char
  | .str s => s.toList
  | .int n => (toString n).toList
  | .word w => w.toList

/-- A line: the verb, then each field after one space. -/
def line (verb : String) (fields : List Field) : List Char :=
  verb.toList ++ fields.flatMap fun f => ' ' :: f.render

/-- What one `buffer_sprintf` of a definition writes: a verb and its fields. -/
structure Record where
  verb : String
  fields : List Field
  deriving DecidableEq, Repr

/-- The line's text, without its newline. -/
def Record.text (r : Record) : List Char := line r.verb r.fields

/-- The words the encoder put in the line. -/
def Record.values (r : Record) : List (List Char) := r.verb.toList :: r.fields.map Field.value

/-- `RRDLABEL_SRC`, by its bits. -/
structure Label where
  name : String
  value : String
  ls : BitVec 32
  deriving DecidableEq, Repr

/-- What `rrdpush_send_chart_definition` reads of a chart. `type_name` is
`rrdset_type_name(st->chart_type)`; `rrdlabels` is `none` for a NULL label set. -/
structure RRDSET where
  id : String
  name : Option String
  title : String
  units : String
  family : String
  context : String
  type_name : String
  priority : Int
  update_every : Int
  OBSOLETE : Bool
  DETAIL : Bool
  STORE_FIRST : Bool
  HIDDEN : Bool
  plugin_name : String
  module_name : String
  chart_slot : Nat
  rrdlabels : Option (List Label)
  deriving DecidableEq, Repr

/-- What the definition reads of a dimension. `algorithm_name` is
`rrd_algorithm_name(rd->algorithm)`. -/
structure RRDDIM where
  id : String
  name : String
  algorithm_name : String
  multiplier : Int
  divisor : Int
  OBSOLETE : Bool
  HIDDEN : Bool
  DONT_DETECT_RESETS_OR_OVERFLOWS : Bool
  dim_slot : Nat
  deriving DecidableEq, Repr

section Encoder

variable (H : StreamHeader) (capabilities : BitVec 32) (RRDLABEL_FLAG_INTERNAL : BitVec 32)
  (print_slot : Nat → String)

/-- The name sent: empty, unless the chart has a name other than its id; then what follows
the first `.` of it, or empty when it has none. -/
def name_sent (st : RRDSET) : String :=
  match st.name with
  | none => ""
  | some name => if st.id ≠ name then ⟨(name.toList.dropWhile (· ≠ '.')).drop 1⟩ else ""

/-- ` SLOT:<n>` when `STREAM_CAP_SLOTS` is negotiated; `print_slot` is the number encoding
(`buffer_print_uint64_encoded`, not in the source). -/
def slot_field (slot : Nat) : List Field :=
  if H.has capabilities .SLOTS then [.word ("SLOT:" ++ print_slot slot)] else []

def chart_record (st : RRDSET) : Record :=
  ⟨"CHART", slot_field H capabilities print_slot st.chart_slot ++
    [.str st.id, .str (name_sent st), .str st.title, .str st.units, .str st.family, .str st.context,
      .str st.type_name, .int st.priority, .int st.update_every,
      .str ((if st.OBSOLETE then "obsolete" else "") ++ " " ++ (if st.DETAIL then "detail" else "") ++
        " " ++ (if st.STORE_FIRST then "store_first" else "") ++ " " ++
        (if st.HIDDEN then "hidden" else "")),
      .str st.plugin_name, .str st.module_name]⟩

def send_clabels_callback (l : Label) : Record :=
  ⟨"CLABEL", [.str l.name, .str l.value, .int (l.ls &&& ~~~RRDLABEL_FLAG_INTERNAL).toInt]⟩

def rrdpush_send_clabels (st : RRDSET) : List Record :=
  match st.rrdlabels with
  | none => []
  | some ls => ls.map (send_clabels_callback RRDLABEL_FLAG_INTERNAL) ++
      if ls.length > 0 then [⟨"CLABEL_COMMIT", []⟩] else []

def dimension_record (rd : RRDDIM) : Record :=
  ⟨"DIMENSION", slot_field H capabilities print_slot rd.dim_slot ++
    [.str rd.id, .str rd.name, .str rd.algorithm_name, .int rd.multiplier, .int rd.divisor,
      .str ((if rd.OBSOLETE then "obsolete" else "") ++ " " ++ (if rd.HIDDEN then "hidden" else "") ++
        " " ++ (if rd.DONT_DETECT_RESETS_OR_OVERFLOWS then "noreset" else ""))]⟩

/-- The `CHART_DEFINITION_END` line: the retention of the chart's first tier and the clock
(`rrdset_get_retention_of_tier_for_collected_chart` and `now_realtime_sec`, not in the source),
each written with `%llu`. -/
def chart_definition_end (db_first_time_t db_last_time_t now : Nat) : Record :=
  ⟨"CHART_DEFINITION_END", [.int db_first_time_t, .int db_last_time_t, .int now]⟩

/-- `rrdpush_send_chart_definition`: its lines, and what it returns, whether replication is in
progress. The lines `rrd_functions_expose_rrdpush` and
`rrdsetvar_print_to_streaming_custom_chart_variables` write (not in the source) are parameters;
the flags it sets are `Publication`'s. -/
def rrdpush_send_chart_definition (st : RRDSET) (dims : List RRDDIM)
    (functions chart_variables : List Record) (db_first_time_t db_last_time_t now : Nat) :
    List Record × Bool :=
  ([chart_record H capabilities print_slot st] ++
    (if H.has capabilities .CLABELS then rrdpush_send_clabels RRDLABEL_FLAG_INTERNAL st else []) ++
    dims.map (dimension_record H capabilities print_slot) ++
    (if H.has capabilities .FUNCTIONS then functions else []) ++ chart_variables ++
    (if H.has capabilities .REPLICATION then
      [chart_definition_end db_first_time_t db_last_time_t now] else []),
    H.has capabilities .REPLICATION)

def send_labels_callback (l : Label) : Record :=
  ⟨"LABEL", [.str l.name, .word "=", .int l.ls.toInt, .str l.value]⟩

end Encoder

/-! ## The word splitter of §6 -/

/-- Where the splitter is: between words, in a bare word, in a quoted string, or just after a
backslash in one. -/
inductive Lex where
  | gap
  | bare (w : List Char)
  | quoted (w : List Char)
  | escaped (w : List Char)
  deriving DecidableEq, Repr

/-- Modelled from the spec (§6, the parent's parser is not in the source): words are
separated by whitespace; a word that starts with a double quote runs to the next double quote
not escaped by a backslash. -/
def lex_step : Lex × List (List Char) → Char → Lex × List (List Char)
  | (.gap, ws), c =>
    if c.isWhitespace then (.gap, ws) else if c = '"' then (.quoted [], ws) else (.bare [c], ws)
  | (.bare w, ws), c => if c.isWhitespace then (.gap, ws ++ [w]) else (.bare (w ++ [c]), ws)
  | (.quoted w, ws), c =>
    if c = '\\' then (.escaped w, ws) else if c = '"' then (.gap, ws ++ [w])
    else (.quoted (w ++ [c]), ws)
  | (.escaped w, ws), c => (.quoted (w ++ [c]), ws)

/-- The words read so far, with the one the line ends in. -/
def settle : Lex × List (List Char) → List (List Char)
  | (.gap, ws) => ws
  | (.bare w, ws) | (.quoted w, ws) | (.escaped w, ws) => ws ++ [w]

def words (l : List Char) : List (List Char) := settle (l.foldl lex_step (.gap, []))

/-! ## The splitter reads every field back -/

/-- A word the splitter reads bare: not empty, no whitespace, not starting with a quote. -/
def BareWord (w : List Char) : Prop :=
  w ≠ [] ∧ (∀ c ∈ w, c.isWhitespace = false) ∧ w.head? ≠ some '"'

instance : DecidablePred BareWord := fun _ => inferInstanceAs (Decidable (_ ∧ _ ∧ _))

/-- A string the splitter reads back between double quotes: it holds none, and no backslash. -/
def Quotable (s : String) : Prop := '"' ∉ s.toList ∧ '\\' ∉ s.toList

instance : DecidablePred Quotable := fun _ => inferInstanceAs (Decidable (_ ∧ _))

/-- A field the splitter reads back: a quotable string, a number, or a bare word. -/
def Field.clean : Field → Prop
  | .str s => Quotable s
  | .int _ => True
  | .word w => BareWord w.toList

def Record.clean (r : Record) : Prop := BareWord r.verb.toList ∧ ∀ f ∈ r.fields, f.clean

theorem digitChar_mem {k : Nat} (h : k < 10) : Nat.digitChar k ∈ "0123456789".toList := by
  have : ∀ k < 10, Nat.digitChar k ∈ "0123456789".toList := by decide
  exact this k h

theorem mem_toDigitsCore {c : Char} : ∀ {fuel n : Nat} {ds : List Char},
    c ∈ Nat.toDigitsCore 10 fuel n ds → c ∈ ds ∨ c ∈ "0123456789".toList
  | 0, _, _, h => .inl h
  | fuel + 1, n, ds, h => by
    have hd := digitChar_mem (Nat.mod_lt n (show 10 > 0 by decide))
    simp only [Nat.toDigitsCore] at h
    split at h
    · rcases List.mem_cons.1 h with rfl | h
      · exact .inr hd
      · exact .inl h
    · rcases mem_toDigitsCore h with h | h
      · rcases List.mem_cons.1 h with rfl | h
        · exact .inr hd
        · exact .inl h
      · exact .inr h

theorem toDigitsCore_ne_nil : ∀ {fuel n : Nat} {ds : List Char}, ds ≠ [] →
    Nat.toDigitsCore 10 fuel n ds ≠ []
  | 0, _, _, h => h
  | fuel + 1, n, ds, _ => by
    simp only [Nat.toDigitsCore]
    split
    · exact List.cons_ne_nil _ _
    · exact toDigitsCore_ne_nil (List.cons_ne_nil _ _)

/-- `%d` writes a bare word. -/
theorem decimal_bare (n : Int) : BareWord (toString n).toList := by
  have hw : ∀ c ∈ "-0123456789".toList, c.isWhitespace = false ∧ c ≠ '"' := by decide
  have hdigits : ∀ m, Nat.toDigits 10 m ≠ [] ∧ ∀ c ∈ Nat.toDigits 10 m, c ∈ "-0123456789".toList :=
    fun m => ⟨by
      simp only [Nat.toDigits, Nat.toDigitsCore]
      split
      · exact List.cons_ne_nil _ _
      · exact toDigitsCore_ne_nil (List.cons_ne_nil _ _),
    fun c hc => by
      rcases mem_toDigitsCore hc with h | h
      · simp at h
      · exact List.mem_cons_of_mem _ h⟩
  have hchars : (toString n).toList ≠ [] ∧ ∀ c ∈ (toString n).toList, c ∈ "-0123456789".toList := by
    cases n with
    | ofNat m => exact hdigits m
    | negSucc m =>
      refine ⟨List.cons_ne_nil _ _, fun c hc => ?_⟩
      rcases List.mem_cons.1 hc with rfl | hc
      · exact List.mem_cons_self _ _
      · exact (hdigits (m + 1)).2 c hc
  refine ⟨hchars.1, fun c hc => (hw c (hchars.2 c hc)).1, fun hh => ?_⟩
  obtain ⟨c, cs, hcs⟩ := List.exists_cons_of_ne_nil hchars.1
  rw [hcs] at hh
  cases hh
  exact (hw '"' (hchars.2 '"' (by rw [hcs]; exact List.mem_cons_self _ _))).2 rfl

theorem foldl_quoted : ∀ (s acc : List Char) (ws : List (List Char)), '"' ∉ s → '\\' ∉ s →
    s.foldl lex_step (.quoted acc, ws) = (.quoted (acc ++ s), ws)
  | [], acc, ws, _, _ => by simp
  | c :: s, acc, ws, hq, hb => by
    simp only [List.mem_cons, not_or] at hq hb
    have h1 : c ≠ '\\' := fun e => hb.1 e.symm
    have h2 : c ≠ '"' := fun e => hq.1 e.symm
    simp only [List.foldl_cons, lex_step, h1, h2, if_false]
    rw [foldl_quoted s _ ws hq.2 hb.2, List.append_assoc, List.singleton_append]

theorem foldl_bare : ∀ (s acc : List Char) (ws : List (List Char)),
    (∀ c ∈ s, c.isWhitespace = false) → s.foldl lex_step (.bare acc, ws) = (.bare (acc ++ s), ws)
  | [], acc, ws, _ => by simp
  | c :: s, acc, ws, h => by
    simp only [List.foldl_cons, lex_step, h c (List.mem_cons_self _ _), Bool.false_eq_true,
      if_false]
    rw [foldl_bare s _ ws (fun c' hc' => h c' (List.mem_cons_of_mem _ hc')), List.append_assoc,
      List.singleton_append]

theorem foldl_bare_word {w : List Char} (h : BareWord w) (ws : List (List Char)) :
    w.foldl lex_step (.gap, ws) = (.bare w, ws) := by
  obtain ⟨hne, hws, hq⟩ := h
  obtain ⟨c, cs, rfl⟩ := List.exists_cons_of_ne_nil hne
  have hc : c ≠ '"' := fun e => hq (by simp [e])
  simp only [List.foldl_cons, lex_step, hws c (List.mem_cons_self _ _), Bool.false_eq_true,
    if_false, hc]
  rw [foldl_bare cs [c] ws (fun c' hc' => hws c' (List.mem_cons_of_mem _ hc'))]
  rfl

/-- Where the splitter is once it has read a field. -/
def after (f : Field) (ws : List (List Char)) : Lex × List (List Char) :=
  match f with
  | .str s => (.gap, ws ++ [s.toList])
  | .int n => (.bare (toString n).toList, ws)
  | .word w => (.bare w.toList, ws)

theorem settle_after (f : Field) (ws : List (List Char)) : settle (after f ws) = ws ++ [f.value] := by
  cases f <;> rfl

/-- Between words or in a bare one: the states a field leaves the splitter in. -/
def Lex.boundary : Lex → Bool
  | .gap | .bare _ => true
  | _ => false

theorem foldl_field {σ : Lex × List (List Char)} (hσ : σ.1.boundary) {f : Field} (hf : f.clean) :
    (' ' :: f.render).foldl lex_step σ = after f (settle σ) := by
  obtain ⟨st, ws⟩ := σ
  have hgap : lex_step (st, ws) ' ' = (.gap, settle (st, ws)) := by
    cases st <;> first | rfl | simp [Lex.boundary] at hσ
  rw [List.foldl_cons, hgap]
  cases f with
  | str s =>
    simp only [Field.render, List.foldl_cons, lex_step, show ('"' : Char).isWhitespace = false from rfl,
      Bool.false_eq_true, if_false, if_true, List.foldl_append]
    rw [foldl_quoted _ _ _ hf.1 hf.2]
    rfl
  | int n => exact foldl_bare_word (decimal_bare n) _
  | word w => exact foldl_bare_word hf _

theorem after_boundary (f : Field) (ws : List (List Char)) : (after f ws).1.boundary := by
  cases f <;> rfl

theorem settle_foldl_fields : ∀ {σ : Lex × List (List Char)}, σ.1.boundary → ∀ {fs : List Field},
    (∀ f ∈ fs, f.clean) →
    settle ((fs.flatMap fun f => ' ' :: f.render).foldl lex_step σ) = settle σ ++ fs.map Field.value
  | σ, _, [], _ => by simp
  | σ, hσ, f :: fs, h => by
    rw [List.flatMap_cons, List.foldl_append, foldl_field hσ (h f (List.mem_cons_self _ _)),
      settle_foldl_fields (after_boundary f _) (fun f' hf' => h f' (List.mem_cons_of_mem _ hf')),
      settle_after]
    simp

/-- The splitter gives back the verb and the value of every field of a line whose fields it
can read back. -/
theorem words_line {verb : String} (hv : BareWord verb.toList) {fs : List Field}
    (h : ∀ f ∈ fs, f.clean) : words (line verb fs) = verb.toList :: fs.map Field.value := by
  rw [words, line, List.foldl_append, foldl_bare_word hv,
    settle_foldl_fields (show (Lex.bare verb.toList).boundary from rfl) h]
  rfl

theorem words_text {r : Record} (h : r.clean) : words r.text = r.values :=
  words_line h.1 h.2

/-! ## Blocks of lines -/

/-- What a buffer holds once the records are written, each line followed by its `\n`. -/
def Record.block (rs : List Record) : List Char := rs.flatMap fun r => r.text ++ ['\n']

/-- Modelled from the spec (§4.3, §6): the parent cuts what it receives at every newline and
splits each line into words. -/
def read_block (l : List Char) : List (List (List Char)) := (l.splitOn '\n').map words

/-- A field with no newline in its text: a string without one; numbers and bare words have
none. -/
def Field.one_line : Field → Prop
  | .str s => '\n' ∉ s.toList
  | .int _ | .word _ => True

/-- A record the parent reads back as one line. -/
def Record.single (r : Record) : Prop := r.clean ∧ ∀ f ∈ r.fields, f.one_line

theorem newline_not_mem_of_bare {w : List Char} (h : ∀ c ∈ w, c.isWhitespace = false) :
    '\n' ∉ w := fun hm => absurd (h _ hm) (by decide)

theorem newline_not_mem_text {r : Record} (h : r.single) : '\n' ∉ r.text := by
  obtain ⟨⟨hv, hfs⟩, hl⟩ := h
  simp only [Record.text, line, List.mem_append, List.mem_flatMap, List.mem_cons, not_or,
    not_exists, not_and]
  refine ⟨newline_not_mem_of_bare hv.2.1, fun f hf => ⟨by decide, ?_⟩⟩
  have hc := hfs f hf
  have h1 := hl f hf
  cases f with
  | str s => simpa [Field.render] using h1
  | int n => exact newline_not_mem_of_bare (decimal_bare n).2.1
  | word w => exact newline_not_mem_of_bare hc.2.1

theorem splitOn_block {rs : List Record} (h : ∀ r ∈ rs, '\n' ∉ r.text) :
    (Record.block rs).splitOn '\n' = rs.map Record.text ++ [[]] := by
  rw [← splitOn_flatMap_sep (by simpa using h), List.flatMap_map]
  rfl

/-- The parent reads a block back record by record, in order, each as its verb and the values
of its fields; the block's last newline leaves an empty line after them. -/
theorem read_block_block {rs : List Record} (h : ∀ r ∈ rs, r.single) :
    read_block (Record.block rs) = rs.map Record.values ++ [[]] := by
  rw [read_block, splitOn_block fun r hr => newline_not_mem_text (h r hr), List.map_append,
    List.map_map]
  exact congrArg (· ++ [words []]) (List.map_congr_left fun r hr => words_text (h r hr).1)

/-! ## Fields read back on one line -/

/-- A string the parent reads back whole between double quotes on one line. -/
def LineQuotable (s : String) : Prop := Quotable s ∧ '\n' ∉ s.toList

instance : DecidablePred LineQuotable := fun _ => inferInstanceAs (Decidable (_ ∧ _))

theorem LineQuotable.field {s : String} (h : LineQuotable s) :
    (Field.str s).clean ∧ (Field.str s).one_line :=
  h

theorem LineQuotable.append {x y : String} (hx : LineQuotable x) (hy : LineQuotable y) :
    LineQuotable (x ++ y) :=
  ⟨⟨by simpa [String.data_append] using And.intro hx.1.1 hy.1.1,
    by simpa [String.data_append] using And.intro hx.1.2 hy.1.2⟩,
    by simpa [String.data_append] using And.intro hx.2 hy.2⟩

theorem LineQuotable.ite (b : Bool) {x y : String} (hx : LineQuotable x) (hy : LineQuotable y) :
    LineQuotable (if b then x else y) := by
  cases b <;> assumption

/-- A flag's word, or nothing. -/
theorem LineQuotable.flag (b : Bool) {w : String} (hw : LineQuotable w) :
    LineQuotable (if b then w else "") :=
  LineQuotable.ite b hw (by decide)

theorem LineQuotable.space {x : String} (h : LineQuotable x) : LineQuotable (x ++ " ") :=
  h.append (by decide)

/-- A word written with `%s`, outside quotes, that the parent reads back whole. -/
def LineWord (s : String) : Prop := BareWord s.toList

instance : DecidablePred LineWord := fun _ => inferInstanceAs (Decidable (BareWord _))

theorem LineWord.field {s : String} (h : LineWord s) :
    (Field.word s).clean ∧ (Field.word s).one_line :=
  ⟨h, trivial⟩

theorem int_field (n : Int) : (Field.int n).clean ∧ (Field.int n).one_line := ⟨trivial, trivial⟩

/-- A record is read back as one line when its verb is a word and each field is read back. -/
theorem Record.single_of {verb : String} {fs : List Field} (hv : LineWord verb)
    (h : ∀ f ∈ fs, f.clean ∧ f.one_line) : Record.single ⟨verb, fs⟩ :=
  ⟨⟨hv, fun f hf => (h f hf).1⟩, fun f hf => (h f hf).2⟩

/-! ## Definitions read back -/

/-- The strings of a chart that its definition writes between quotes, its labels' included,
each one the parent reads back on one line. -/
def RRDSET.LineQuotable (st : RRDSET) : Prop :=
  (∀ s ∈ [st.id, st.title, st.units, st.family, st.context, st.type_name, st.plugin_name,
    st.module_name], Definition.LineQuotable s) ∧
  (∀ name, st.name = some name → Definition.LineQuotable name) ∧
  ∀ ls, st.rrdlabels = some ls → ∀ l ∈ ls,
    Definition.LineQuotable l.name ∧ Definition.LineQuotable l.value

def RRDDIM.LineQuotable (rd : RRDDIM) : Prop :=
  ∀ s ∈ [rd.id, rd.name, rd.algorithm_name], Definition.LineQuotable s

section Words

variable (H : StreamHeader) (capabilities : BitVec 32) (RRDLABEL_FLAG_INTERNAL : BitVec 32)
  {print_slot : Nat → String}

/-- A chart `cpu.user` titled `CPU user`, with no name, labels or flags. -/
def cpu_user : RRDSET :=
  ⟨"cpu.user", none, "CPU user", "%", "cpu", "cpu.user", "line", 1000, 1, false, false, false, false,
    "proc", "stat", 0, none⟩

def user_dim : RRDDIM := ⟨"user", "user", "incremental", 1, 1, false, false, false, 0⟩

end Words

end Netdata.Stream.Definition

import TableMapper.Proofs.Json.Scanning

/-!
# Written documents are read back

`Json.read?_text`: the text of a document is read as the document.  This asks of the document
(`Json.Readable`) that its arrays and objects nest at most as deep as the reader goes, that the keys
of an object differ, and that its doubles are read back; words always are.

`Json.written` is the tree of the text.  The reader is followed with a stack of open containers
(`JsonSyntax.readFrom`): the text of a value takes it from expecting the value to having it,
whatever the stack holds and whatever follows.
-/

namespace TableMapper

namespace Json

/-- A document that is read back if containers may nest `depth` deep. -/
inductive Readable : (depth : Nat) → Json → Prop where
  | null {d : Nat} : Readable d .null
  | bool {d : Nat} (b : Bool) : Readable d (.bool b)
  | number {d : Nat} {n : JsonNumber}
      (real : ∀ x finite, n = .real x finite → JsonNumber.read? n.chars = some n) :
      Readable d (.number n)
  | string {d : Nat} (s : String) : Readable d (.string s)
  | array {d : Nat} {items : List Json} (each : ∀ item ∈ items, Readable d item) :
    Readable (d + 1) (.array items)
  | object {d : Nat} {entries : List (String × Json)} (distinct : (entries.map (·.1)).Nodup)
      (each : ∀ entry ∈ entries, Readable d entry.2) : Readable (d + 1) (.object entries)

/-- A key that is new is put behind the others. -/
theorem put_of_not_mem {key : String} {value : Json} {entries : List (String × Json)}
    (fresh : key ∉ entries.map (·.1)) : put key value entries = entries ++ [(key, value)] := by
  induction entries with
  | nil => rfl
  | cons entry entries ih =>
    obtain ⟨k, old⟩ := entry
    have other : k ≠ key := fun same => fresh (same ▸ List.mem_cons_self ..)
    rw [put, if_neg other, ih fun later => fresh (List.mem_cons_of_mem _ later)]
    rfl

mutual

/-- The tree of the document's text. -/
def written : Json → JsonSyntax
  | .null => .null
  | .bool b => .bool b
  | .number n => .number ((JsonSyntax.number? n.chars).getD ⟨false, [], [], none⟩)
  | .string s => .string (s.toList.map .ofWritten)
  | .array items => .array (writtenItems items)
  | .object entries => .object (writtenEntries entries)

def writtenItems : List Json → List JsonSyntax
  | [] => []
  | item :: rest => written item :: writtenItems rest

def writtenEntries : List (String × Json) → List (List StringUnit × JsonSyntax)
  | [] => []
  | (key, value) :: rest => (key.toList.map .ofWritten, written value) :: writtenEntries rest

end

end Json

/-- Words are read back from their numerals, so that only doubles are in question. -/
theorem JsonNumber.read?_chars {n : JsonNumber}
    (real : ∀ x finite, n = .real x finite → JsonNumber.read? n.chars = some n) :
    JsonNumber.read? n.chars = some n := by
  cases n with
  | natural n => exact read?_natural n
  | negative i below => exact read?_negative below
  | real x finite => exact real x finite rfl

namespace JsonSyntax

/-! ## §1 Reading with open containers -/

/-- The tree of a text with containers already open. -/
def readFrom (stack : List Frame) (expected : Expectation) (s : List Char) : Option JsonSyntax :=
  (scan .between s).bind (assemble stack expected)

/-- If one token is cut off, the reader goes on with it and then with the rest. -/
theorem readFrom_of_token {s rest : List Char} {token : Token}
    (cut : scan .between (s ++ rest) = (scan .between rest).map (token :: ·)) (stack : List Frame)
    (expected : Expectation) :
    readFrom stack expected (s ++ rest) =
      (step stack expected token).bind fun next => readFrom next.1 next.2 rest := by
  unfold readFrom
  rw [cut]
  cases scan .between rest with
  | none => cases step stack expected token <;> rfl
  | some tokens => rfl

/-- A mark is a token by itself. -/
theorem readFrom_of_mark {c : Char} {token : Token} (began : begin? c = some (some token, .between))
    {stack next : List Frame} {expected after : Expectation}
    (moves : step stack expected token = some (next, after)) (rest : List Char) :
    readFrom stack expected (c :: rest) = readFrom next after rest := by
  have cut : scan .between ([c] ++ rest) = (scan .between rest).map (token :: ·) :=
    scan_between_of_mark began rest
  exact (readFrom_of_token cut stack expected).trans (by rw [moves]; rfl)

/-- What follows a value: the end, a comma or a closing bracket. -/
def Ends (rest : List Char) : Prop := ∀ c ∈ rest.head?, c ∈ [',', ']', '\x7d']

/-- A value is expected, perhaps as the first item of an array. -/
def Expectation.IsValue : Expectation → Prop
  | .value => True
  | .firstItem => True
  | _ => False

/-- A token that is a whole value is taken as one. -/
theorem step_of_value? {token : Token} {v : JsonSyntax} (value : token.value? = some v)
    {expected : Expectation} (isValue : expected.IsValue) (stack : List Frame) :
    step stack expected token = some (stack, .next v) := by
  cases expected with
  | value => cases token <;> simp_all [step, Token.value?]
  | firstItem => cases token <;> simp_all [step, Token.value?]
  | _ => cases isValue

/-- A container is opened wherever a value is expected. -/
theorem Expectation.IsValue.opens {expected : Expectation} (isValue : expected.IsValue)
    (stack : List Frame) :
    step stack expected .openArray = some (.array [] :: stack, .firstItem) ∧
      step stack expected .openObject = some (.object [] [] :: stack, .firstKey) := by
  cases expected with
  | value | firstItem => exact ⟨rfl, rfl⟩
  | _ => cases isValue

/-- The text `s` is read as the tree `v` wherever a value is expected. -/
def ReadsAs (s : List Char) (v : JsonSyntax) : Prop :=
  ∀ stack expected rest, expected.IsValue → Ends rest →
    readFrom stack expected (s ++ rest) = readFrom stack (.next v) rest

/-- One of the three marks ends a value. -/
theorem ends_cons {c : Char} (mark : c ∈ [',', ']', '\x7d']) (rest : List Char) :
    Ends (c :: rest) := by
  rintro _ ⟨⟩
  exact mark

/-- The characters of a word or a numeral are none of these marks. -/
theorem Ends.stop {rest : List Char} (ends : Ends rest) {p : Char → Bool}
    (marks : [',', ']', '\x7d'].all (fun c => !p c) = true) : ∀ c ∈ rest.head?, p c = false :=
  fun c h => by simpa using List.all_eq_true.1 marks c (ends c h)

/-- A text that is one token is read as the value of the token. -/
theorem readsAs_of_token {s : List Char} (token : Token) {v : JsonSyntax}
    (value : token.value? = some v)
    (cut : ∀ rest, Ends rest → scan .between (s ++ rest) = (scan .between rest).map (token :: ·)) :
    ReadsAs s v := by
  intro stack expected rest isValue ends
  rw [readFrom_of_token (cut rest ends), step_of_value? value isValue]
  rfl

/-- A word is read as the value that it names. -/
theorem readsAs_word {c : Char} {s : List Char} (token : Token) {v : JsonSyntax}
    (value : token.value? = some v)
    (word : wordToken? (c :: s) = some token) (letters : s.all isWordChar = true)
    (began : begin? c = some (none, .inWord [c])) : ReadsAs (c :: s) v :=
  readsAs_of_token token value fun _ ends =>
    scan_word word (List.all_eq_true.1 letters) began (ends.stop (by decide))

/-! ## §2 Arrays -/

/-- Behind an item stands a comma or the closing bracket. -/
theorem ends_itemChars (items : List Json) (rest : List Char) :
    Ends (Json.itemChars false items ++ ']' :: rest) := by
  cases items with
  | nil => exact ends_cons (by decide) _
  | cons item items => exact ends_cons (c := ',') (by decide) _

/-- What follows an item of an array is read up to the closing bracket. -/
theorem readFrom_items {items : List Json} (each : ∀ item ∈ items, ReadsAs item.chars item.written)
    (stack : List Frame) (acc : List JsonSyntax) (done : JsonSyntax) (rest : List Char) :
    readFrom (.array acc :: stack) (.next done) (Json.itemChars false items ++ ']' :: rest) =
      readFrom stack (.next (.array (acc.reverse ++ done :: Json.writtenItems items))) rest := by
  -- By induction on the items that follow, for any that were read before.
  induction items generalizing acc done with
  | nil =>
    rw [Json.itemChars, List.nil_append,
      readFrom_of_mark (by decide : begin? ']' = some (some .closeArray, .between)) rfl,
      List.reverse_cons]
    rfl
  | cons item items ih =>
    have text : Json.itemChars false (item :: items) ++ ']' :: rest =
        ',' :: (item.chars ++ (Json.itemChars false items ++ ']' :: rest)) := by
      simp [Json.itemChars]
    rw [text, readFrom_of_mark (by decide : begin? ',' = some (some .comma, .between)) rfl,
      each item (List.mem_cons_self ..) _ .value _ trivial (ends_itemChars items rest),
      ih fun i h => each i (List.mem_cons_of_mem _ h), List.reverse_cons, List.append_assoc]
    rfl

/-- An array is read if its items are. -/
theorem readsAs_array {items : List Json} (each : ∀ item ∈ items, ReadsAs item.chars item.written) :
    ReadsAs (Json.array items).chars (Json.array items).written := by
  have opening : begin? '[' = some (some .openArray, .between) := by decide
  intro stack expected rest isValue _
  obtain ⟨opens, -⟩ := isValue.opens stack
  cases items with
  | nil =>
    show readFrom stack expected ('[' :: ']' :: rest) = _
    rw [readFrom_of_mark opening opens,
      readFrom_of_mark (by decide : begin? ']' = some (some .closeArray, .between)) rfl]
    rfl
  | cons item items =>
    have text : (Json.array (item :: items)).chars ++ rest =
        '[' :: (item.chars ++ (Json.itemChars false items ++ ']' :: rest)) := by
      simp [Json.chars, Json.itemChars]
    -- The first item is the one without a comma before it.
    rw [text, readFrom_of_mark opening opens,
      each item (List.mem_cons_self ..) _ .firstItem _ trivial (ends_itemChars items rest),
      readFrom_items fun i h => each i (List.mem_cons_of_mem _ h)]
    rfl

/-- The trees of the items stand for the items. -/
theorem toItems?_written {d : Nat} {items : List Json}
    (each : ∀ item ∈ items, item.written.toJson? d = some item) :
    toItems? d (Json.writtenItems items) = some items := by
  induction items with
  | nil => rfl
  | cons item items ih =>
    rw [Json.writtenItems, toItems?, each item (List.mem_cons_self ..),
      ih fun i h => each i (List.mem_cons_of_mem _ h)]
    rfl

/-! ## §3 Objects -/

/-- Behind an entry stands a comma or the closing brace. -/
theorem ends_entryChars (entries : List (String × Json)) (rest : List Char) :
    Ends (Json.entryChars false entries ++ '\x7d' :: rest) := by
  cases entries with
  | nil => exact ends_cons (by decide) _
  | cons entry entries => exact ends_cons (c := ',') (by decide) _

/-- An entry is read from its key to its value. -/
theorem readFrom_entry {key : String} {value : Json} {v : JsonSyntax}
    (reads : ReadsAs value.chars v) {expected : Expectation}
    (isKey : expected = .firstKey ∨ expected = .nextKey)
    (acc : List (List StringUnit × JsonSyntax)) (k : List StringUnit) (stack : List Frame)
    {rest : List Char} (ends : Ends rest) :
    readFrom (.object acc k :: stack) expected
      (Json.quoteChars key ++ ':' :: (value.chars ++ rest)) =
      readFrom (.object acc (key.toList.map .ofWritten) :: stack) (.next v) rest := by
  -- The key is taken as the first one or as a further one alike.
  have moves : step (.object acc k :: stack) expected (.string (key.toList.map .ofWritten)) =
      some (.object acc k :: stack, .colon (key.toList.map .ofWritten)) := by
    rcases isKey with rfl | rfl <;> rfl
  rw [readFrom_of_token (scan_quoteChars key _), moves, Option.bind_some,
    readFrom_of_mark (by decide : begin? ':' = some (some .colon, .between)) rfl,
    reads _ .value _ trivial ends]

/-- What follows an entry of an object is read up to the closing brace. -/
theorem readFrom_entries {entries : List (String × Json)}
    (each : ∀ entry ∈ entries, ReadsAs entry.2.chars entry.2.written) (stack : List Frame)
    (acc : List (List StringUnit × JsonSyntax)) (key : List StringUnit) (done : JsonSyntax)
    (rest : List Char) :
    readFrom (.object acc key :: stack) (.next done)
      (Json.entryChars false entries ++ '\x7d' :: rest) =
      readFrom stack (.next (.object (acc.reverse ++ (key, done) :: Json.writtenEntries entries)))
        rest := by
  -- As for items: any entries may have been read before.
  induction entries generalizing acc key done with
  | nil =>
    rw [Json.entryChars, List.nil_append,
      readFrom_of_mark (by decide : begin? '\x7d' = some (some .closeObject, .between)) rfl,
      List.reverse_cons]
    rfl
  | cons entry entries ih =>
    obtain ⟨name, value⟩ := entry
    have text : Json.entryChars false ((name, value) :: entries) ++ '\x7d' :: rest =
        ',' :: (Json.quoteChars name ++ ':' ::
          (value.chars ++ (Json.entryChars false entries ++ '\x7d' :: rest))) := by
      simp [Json.entryChars]
    have reads : ReadsAs value.chars value.written := each (name, value) (List.mem_cons_self ..)
    rw [text, readFrom_of_mark (by decide : begin? ',' = some (some .comma, .between)) rfl,
      readFrom_entry reads (.inr rfl) _ _ _ (ends_entryChars entries rest),
      ih fun e h => each e (List.mem_cons_of_mem _ h), List.reverse_cons, List.append_assoc]
    rfl

/-- An object is read if its values are. -/
theorem readsAs_object {entries : List (String × Json)}
    (each : ∀ entry ∈ entries, ReadsAs entry.2.chars entry.2.written) :
    ReadsAs (Json.object entries).chars (Json.object entries).written := by
  have opening : begin? '\x7b' = some (some .openObject, .between) := by decide
  intro stack expected rest isValue _
  obtain ⟨-, opens⟩ := isValue.opens stack
  cases entries with
  | nil =>
    show readFrom stack expected ('\x7b' :: '\x7d' :: rest) = _
    rw [readFrom_of_mark opening opens,
      readFrom_of_mark (by decide : begin? '\x7d' = some (some .closeObject, .between)) rfl]
    rfl
  | cons entry entries =>
    obtain ⟨key, value⟩ := entry
    have text : (Json.object ((key, value) :: entries)).chars ++ rest =
        '\x7b' :: (Json.quoteChars key ++ ':' ::
          (value.chars ++ (Json.entryChars false entries ++ '\x7d' :: rest))) := by
      simp [Json.chars, Json.entryChars]
    have reads : ReadsAs value.chars value.written := each (key, value) (List.mem_cons_self ..)
    -- The first entry is the one without a comma before it.
    rw [text, readFrom_of_mark opening opens,
      readFrom_entry reads (.inl rfl) _ _ _ (ends_entryChars entries rest),
      readFrom_entries fun e h => each e (List.mem_cons_of_mem _ h)]
    rfl

/-- The trees of the entries stand for the entries, as no key comes twice. -/
theorem toEntries?_written {d : Nat} {entries : List (String × Json)}
    (each : ∀ entry ∈ entries, entry.2.written.toJson? d = some entry.2)
    (done : List (String × Json)) (distinct : ((done ++ entries).map (·.1)).Nodup) :
    toEntries? d done (Json.writtenEntries entries) = some (done ++ entries) := by
  induction entries generalizing done with
  | nil => rw [Json.writtenEntries, toEntries?, List.append_nil]
  | cons entry entries ih =>
    obtain ⟨key, value⟩ := entry
    -- A new key is put last, so the entries keep their order.
    have fresh : key ∉ done.map (·.1) := by
      rw [List.map_append, List.nodup_append] at distinct
      exact fun listed => distinct.2.2 key listed key (List.mem_cons_self ..) rfl
    have found : value.written.toJson? d = some value := each (key, value) (List.mem_cons_self ..)
    have rest := ih (fun e h => each e (List.mem_cons_of_mem _ h)) (done ++ [(key, value)])
      (by simpa using distinct)
    rw [Json.writtenEntries, toEntries?, StringUnit.text?_ofWritten, found]
    show toEntries? d (Json.put key value done) _ = _
    rw [Json.put_of_not_mem fresh, rest, List.append_assoc]
    rfl

end JsonSyntax

namespace Json

open JsonSyntax

/-! ## §4 Documents -/

/-- The numeral of a number that is read back has a tree. -/
theorem exists_written_number {n : JsonNumber} (read : JsonNumber.read? n.chars = some n) :
    ∃ v, number? n.chars = some v ∧ (number n).written = .number v ∧ v.toNumber? = some n := by
  obtain ⟨v, numeral, value⟩ := Option.bind_eq_some_iff.1 read
  exact ⟨v, numeral, by rw [written, numeral, Option.getD_some], value⟩

/-- The text of a readable document is read as its tree. -/
theorem Readable.readsAs {d : Nat} {j : Json} (readable : Readable d j) :
    ReadsAs j.chars j.written := by
  -- One case for each way to be readable; words, numbers and strings are single tokens.
  induction readable with
  | null => exact readsAs_word .null rfl (by decide) (by decide) (by decide)
  | bool b =>
    cases b with
    | true => exact readsAs_word (.bool true) rfl (by decide) (by decide) (by decide)
    | false => exact readsAs_word (.bool false) rfl (by decide) (by decide) (by decide)
  | @number d n real =>
    obtain ⟨v, numeral, tree, -⟩ := exists_written_number (JsonNumber.read?_chars real)
    rw [tree]
    exact readsAs_of_token (.number v) rfl fun rest ends =>
      scan_number numeral n.exists_isUnsigned (ends.stop (by decide))
  | string s => exact readsAs_of_token (.string _) rfl fun rest _ => scan_quoteChars s rest
  | array each ih => exact readsAs_array ih
  | object distinct each ih => exact readsAs_object ih

/-- The tree of a readable document stands for the document. -/
theorem Readable.toJson?_written {d : Nat} {j : Json} (readable : Readable d j) :
    j.written.toJson? d = some j := by
  induction readable with
  | null => rfl
  | bool b => rfl
  | number real =>
    obtain ⟨v, -, tree, value⟩ := exists_written_number (JsonNumber.read?_chars real)
    rw [tree, toJson?, value]
    rfl
  | string s =>
    rw [written, toJson?, StringUnit.text?_ofWritten]
    rfl
  -- What arrays and objects hold is read with one level less.
  | array each ih =>
    rw [written, toJson?, if_neg (Nat.succ_ne_zero _), Nat.add_sub_cancel, toItems?_written ih]
    rfl
  | object distinct each ih =>
    rw [written, toJson?, if_neg (Nat.succ_ne_zero _), Nat.add_sub_cancel,
      toEntries?_written ih [] distinct]
    rfl

/-- **The text of a readable document is a text of its tree.** -/
theorem Readable.read?_text {d : Nat} {j : Json} (readable : Readable d j) :
    JsonSyntax.read? j.text = some j.written := by
  -- Nothing is open before the text, and nothing follows it.
  have read : readFrom [] .value (j.chars ++ []) = some j.written := by
    rw [readable.readsAs [] .value [] trivial (by rintro c ⟨⟩)]
    rfl
  rw [List.append_nil] at read
  rw [JsonSyntax.read?, text, String.toList_ofList]
  exact read

/-- **A readable document is read back from its text.** -/
theorem read?_text {j : Json} (readable : Readable maxDepth j) : read? j.text = some j := by
  rw [read?, readable.read?_text, Option.bind_some, readable.toJson?_written]

end Json

end TableMapper

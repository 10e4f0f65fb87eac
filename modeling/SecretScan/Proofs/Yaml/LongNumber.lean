import SecretScan.Proofs.Yaml.Numbers
import SecretScan.Yaml.Build

/-!
# A document with a long number

Only decimal numerals are limited in length. A number that is written with hexadecimal digits may
be as long as it likes, so a document can hold numbers that cannot be written again
(`document_longText`).
-/

namespace SecretScan.Yaml

/-- A hexadecimal numeral of `n` digits, without its mark. -/
def largest (n : Nat) : List Char := List.replicate n 'f'

/-- A text with one field. -/
def fieldText (value : List Char) : List Char :=
  's' :: 'e' :: 'v' :: 'e' :: 'r' :: 'i' :: 't' :: 'y' :: ':' :: ' ' :: value

/-- A text with one field, the largest number of so many hexadecimal digits. -/
def longText (n : Nat) : List Char := fieldText ('0' :: 'x' :: largest n)

/-- What such a text holds. -/
def longField (n : Nat) : Value := .map [(.text "severity", .int (Nat.pow 16 n - 1 : Nat))]

/-! ## The number -/

theorem foldl_replicate (a : Nat) : ∀ n,
    (List.replicate n 15).foldl (fun m d => m * 16 + d) a + 1 = (a + 1) * Nat.pow 16 n
  | 0 => (Nat.mul_one _).symm
  | n + 1 => by
      have hpow : Nat.pow 16 (n + 1) = 16 * Nat.pow 16 n := Nat.mul_comm _ _
      rw [List.replicate_succ, List.foldl_cons, foldl_replicate, hpow, ← Nat.mul_assoc,
        Nat.add_assoc, ← Nat.succ_mul]

theorem largest_succ (n : Nat) : largest (n + 1) = 'f' :: largest n := rfl

theorem groupedDigits?_largest : ∀ n,
    Text.groupedDigits? 16 (largest (n + 1)) = some (List.replicate (n + 1) 15)
  | 0 => by decide
  | n + 1 => by
      have ih := groupedDigits?_largest n
      have hdigit : Text.digitIn? 16 'f' = some 15 := rfl
      rw [largest_succ] at ih
      rw [largest_succ, largest_succ, Text.groupedDigits?, hdigit, ih]
      · rfl
      · intro h
        cases h
      · intro rest h
        cases h

theorem trimBlanks_largest (n : Nat) : Text.trimBlanks (largest n) = largest n := by
  have hdrop : (largest n).dropWhile Text.isBlank = largest n := by
    cases n with
    | zero => rfl
    | succ n => rfl
  rw [Text.trimBlanks, hdrop, largest, List.reverse_replicate]
  change ((largest n).dropWhile Text.isBlank).reverse = _
  rw [hdrop, largest, List.reverse_replicate]

theorem readInteger_largest (n : Nat) :
    Text.readInteger 16 (largest (n + 1)) = .ok ((Nat.pow 16 (n + 1) - 1 : Nat) : Int) := by
  have hvalue : Text.ofDigits 16 (List.replicate (n + 1) 15) = Nat.pow 16 (n + 1) - 1 := by
    have h := foldl_replicate 0 (n + 1)
    rw [Nat.zero_add, Nat.one_mul] at h
    rw [Text.ofDigits, ← h, Nat.add_sub_cancel]
  have hmark : Text.dropBaseMark 16 (largest (n + 1)) = largest (n + 1) := rfl
  have hdigits := groupedDigits?_largest n
  rw [← hmark, largest_succ] at hdigits
  rw [Text.readInteger, trimBlanks_largest, largest_succ, ← hvalue]
  simp [hdigits]

theorem filter_largest (n : Nat) :
    ('0' :: 'x' :: largest n).filter (· != '_') = '0' :: 'x' :: largest n := by
  rw [List.filter_eq_self]
  intro c hc
  simp only [largest, List.mem_cons, List.mem_replicate] at hc
  rcases hc with rfl | rfl | ⟨-, rfl⟩ <;> decide

theorem int_largest (n : Nat) :
    ScalarValue.int (String.ofList ('0' :: 'x' :: largest (n + 1))) =
      .ok (.int (Nat.pow 16 (n + 1) - 1 : Nat)) := by
  rw [ScalarValue.int, String.toList_ofList, filter_largest]
  change (ScalarValue.integer 16 (largest (n + 1)) >>= fun m => pure (Value.int m)) = _
  rw [ScalarValue.integer, readInteger_largest]
  rfl

/-- No word begins with a digit. -/
theorem not_contains_word {words : List String} {s : List Char}
    (h : ∀ word ∈ words, word.toList.head? ≠ some '0') :
    words.contains (String.ofList ('0' :: s)) = false := by
  rw [← Bool.not_eq_true, List.contains_iff_mem]
  intro hmem
  exact h _ hmem (by rw [String.toList_ofList]; rfl)

theorem evident_largest (n : Nat) : Tag.evident ('0' :: 'x' :: largest (n + 1)) = .int := by
  have hlast : ('0' :: 'x' :: largest (n + 1)).getLast? = some 'f' := by
    simp [largest, List.getLast?_cons, List.getLast?_replicate]
  have hfloat : Tag.isFloat ('0' :: 'x' :: largest (n + 1)) = false := by
    have hpoint : (largest (n + 1)).dropWhile (· != '.') = [] := by
      rw [largest, List.dropWhile_replicate]
      rfl
    have hsign : Tag.dropSign ('0' :: 'x' :: largest (n + 1)) = '0' :: 'x' :: largest (n + 1) := rfl
    simp [Tag.isFloat, hsign, hpoint]
  have hint : Tag.isInt ('0' :: 'x' :: largest (n + 1)) = true := by
    change (largest (n + 1)).all Tag.isHexOrLine = true
    rw [largest, List.all_replicate]
    rfl
  rw [Tag.evident, hlast]
  change Tag.evidentInLine _ = _
  rw [Tag.evidentInLine, not_contains_word (by decide), hfloat, hint]
  rfl

/-! ## The tokens -/

theorem collect_succ (s : Scanner) (handed : List PlacedToken) (fuel : Nat) :
    TokenStream.collect s handed (fuel + 1) =
      match s.needsMore with
      | .error e => ⟨handed.reverse, some e⟩
      | .ok (true, s) =>
        match s.fetch with
        | .error e => ⟨handed.reverse, some e⟩
        | .ok s => TokenStream.collect s handed fuel
      | .ok (false, s) =>
        match s.queue with
        | [] => ⟨handed.reverse, none⟩
        | t :: rest =>
          TokenStream.collect { s with queue := rest, taken := s.taken + 1 } (t :: handed) fuel := by
  rfl

theorem collect_fetch {s s' s'' : Scanner} {handed : List PlacedToken} {fuel : Nat}
    (hmore : s.needsMore = .ok (true, s')) (hfetch : s'.fetch = .ok s'') :
    TokenStream.collect s handed (fuel + 1) = TokenStream.collect s'' handed fuel := by
  simp only [collect_succ, hmore, hfetch]

theorem collect_hand {s s' : Scanner} {t : PlacedToken} {rest handed : List PlacedToken}
    {fuel : Nat} (hmore : s.needsMore = .ok (false, s')) (hqueue : s'.queue = t :: rest) :
    TokenStream.collect s handed (fuel + 1) =
      TokenStream.collect { s' with queue := rest, taken := s'.taken + 1 } (t :: handed) fuel := by
  simp only [collect_succ, hmore, hqueue]

@[simp]
theorem plainLength_largest : ∀ n, Scalar.plainLength false (largest n) = n
  | 0 => rfl
  | n + 1 => by
      have hstep : Scalar.plainLength false (largest (n + 1)) =
          Scalar.plainLength false (largest n) + 1 := by
        rw [largest, List.replicate_succ, Scalar.plainLength]
        rfl
      rw [hstep, plainLength_largest n]

theorem advance_largest : ∀ n i c, Position.advance n ⟨largest n, i, 0, c⟩ = ⟨[], i + n, 0, c + n⟩
  | 0, _, _ => rfl
  | n + 1, i, c => by
      change Position.advance n ⟨largest n, i + 1, 0, c + 1⟩ = _
      rw [advance_largest n, Nat.add_assoc, Nat.add_assoc, Nat.add_comm 1 n]

/-- A plain scalar of one word. -/
theorem plain_word {flow broke : Bool} {indent : Int} {p q : Position} {n : Nat}
    (hpeek : p.peek ≠ '#') (hlength : Scalar.plainLength flow p.rest = n + 1)
    (hspaces : Scalar.plainSpaces (p.advance (n + 1)) = ([], broke, q)) :
    Scalar.plain flow indent p = (String.ofList (p.rest.take (n + 1)), some broke, q) := by
  rw [Scalar.plain, Position.budget, Scalar.plainFrom]
  simp [hpeek, hlength, hspaces]

theorem plain_largest (n : Nat) :
    Scalar.plain false 1 ⟨'0' :: 'x' :: largest n, 10, 0, 10⟩ =
      (String.ofList ('0' :: 'x' :: largest n), some false, ⟨[], 10 + (n + 2), 0, 10 + (n + 2)⟩) := by
  have hpeek : Position.peek ⟨'0' :: 'x' :: largest n, 10, 0, 10⟩ ≠ '#' := (by decide : '0' ≠ '#')
  have hlength : Scalar.plainLength false ('0' :: 'x' :: largest n) = n + 2 := by
    change Scalar.plainLength false (largest n) + 1 + 1 = _
    rw [plainLength_largest]
  have htake : ('0' :: 'x' :: largest n).take (n + 2) = '0' :: 'x' :: largest n := by
    rw [List.take_of_length_le]
    simp [largest]
  have hadvance : Position.advance (n + 2) ⟨'0' :: 'x' :: largest n, 10, 0, 10⟩ =
      ⟨[], 10 + (n + 2), 0, 10 + (n + 2)⟩ := by
    change Position.advance n ⟨largest n, 12, 0, 12⟩ = _
    rw [advance_largest]
    simp only [Position.mk.injEq, true_and]
    omega
  have hspaces : Scalar.plainSpaces
      (Position.advance (n + 2) ⟨'0' :: 'x' :: largest n, 10, 0, 10⟩) =
        ([], false, ⟨[], 10 + (n + 2), 0, 10 + (n + 2)⟩) := by
    rw [hadvance]
    rfl
  rw [plain_word hpeek hlength hspaces, htake]

theorem plain_fieldText (value : List Char) :
    Scalar.plain false 0 { rest := fieldText value } =
      ("severity", some false, ⟨':' :: ' ' :: value, 8, 0, 8⟩) :=
  have hpeek : Position.peek { rest := fieldText value } ≠ '#' := (by decide : 's' ≠ '#')
  plain_word (n := 7) hpeek rfl rfl

/-- The place in the first line behind some characters. -/
def inLine (n : Nat) : Mark := ⟨n, 0, n⟩

/-- The tokens of a field with a plain value. -/
def fieldTokens (value : String) (stop : Nat) : List PlacedToken :=
  [⟨.blockMappingStart, inLine 0, inLine 0⟩, ⟨.key, inLine 0, inLine 0⟩,
    ⟨.scalar "severity" true, inLine 0, inLine 8⟩, ⟨.value, inLine 8, inLine 9⟩,
    ⟨.scalar value true, inLine 10, inLine stop⟩, ⟨.blockEnd, inLine stop, inLine stop⟩,
    ⟨.streamEnd, inLine stop, inLine stop⟩]

/-- The scanner in front of the document. -/
def atStart (s : List Char) : Scanner := { pos := { rest := fieldText s } }

/-- The scanner in front of the colon. -/
def atColon (s : List Char) : Scanner :=
  { pos := ⟨':' :: ' ' :: s, 8, 0, 8⟩, keyAllowed := false, keys := [(0, ⟨0, false, inLine 0⟩)]
    queue := [⟨.scalar "severity" true, inLine 0, inLine 8⟩] }

/-- The scanner behind the colon, after it has handed out some tokens. -/
def atValue (s : List Char) (queue : List PlacedToken) (taken : Nat) : Scanner :=
  { pos := ⟨' ' :: s, 9, 0, 9⟩, keyAllowed := false, indent := 0, outer := [-1], queue, taken }

/-- The scanner at the end, after it has handed out some tokens. -/
def atEnd (stop : Nat) (queue : List PlacedToken) (taken : Nat) : Scanner :=
  { pos := ⟨[], stop, 0, stop⟩, keyAllowed := false, indent := 0, outer := [-1], queue, taken }

/-- The scanner in front of the digits. -/
def atDigits (s : List Char) : Scanner :=
  { pos := ⟨'0' :: 'x' :: s, 10, 0, 10⟩, keyAllowed := false, indent := 0, outer := [-1]
    taken := 4 }

@[simp]
theorem isTriple_eq_false {p : Position} {c : Char} (h : p.peek ≠ c) : p.isTriple c = false := by
  rcases p with ⟨_ | ⟨d, rest⟩, _, _, _⟩
  · rfl
  · have hd : (c == d) = false := beq_eq_false_iff_ne.2 (Ne.symm h)
    rw [Position.isTriple, List.isPrefixOf, hd]
    rfl

section Fetch

variable {s t u : Scanner}

/-- A letter or a digit begins a plain scalar. -/
theorem fetch_plain {text : String} {keyMayFollow : Option Bool} {p : Position}
    (hnext : s.toNextToken.dropStale = .ok t) (hblocks : t.unwindTo t.pos.column = t)
    (hend : t.pos.atEnd = false) (hpeek : t.pos.peek = 's' ∨ t.pos.peek = '0')
    (hkey : t.saveKey = .ok u)
    (hplain : Scalar.plain (u.flow != 0) (u.indent + 1) u.pos = (text, keyMayFollow, p)) :
    s.fetch = .ok { u.pushTo (.scalar text true) p with keyAllowed := keyMayFollow.getD false } := by
  have hfetch : t.fetchPlain =
      .ok { u.pushTo (.scalar text true) p with keyAllowed := keyMayFollow.getD false } := by
    simp [Scanner.fetchPlain, hkey, hplain, bind, Except.bind, pure, Except.pure]
  rw [Scanner.fetch, hnext, ← hfetch]
  rcases hpeek with hpeek | hpeek <;>
    simp [bind, Except.bind, hblocks, hpeek, hend, Scanner.beginsPlain, isGap, isSpaceOrEnd, isBreakOrEnd, isBreak, endMark]

/-- A colon in front of a gap ends a key. -/
theorem fetch_colon (hnext : s.toNextToken.dropStale = .ok t)
    (hblocks : t.unwindTo t.pos.column = t) (hend : t.pos.atEnd = false)
    (hpeek : t.pos.peek = ':') (hgap : isGap (t.pos.peekAt 1) = true) :
    s.fetch = t.fetchValue := by
  rw [Scanner.fetch, hnext]
  simp [bind, Except.bind, hblocks, hpeek, hend, hgap]

end Fetch

theorem fetch_atStart (s : List Char) : (atStart s).fetch = .ok (atColon s) := by
  have hnext : (atStart s).toNextToken.dropStale = .ok (atStart s) := rfl
  have hkey : (atStart s).saveKey =
      .ok { atStart s with keys := [(0, ⟨0, false, inLine 0⟩)] } := rfl
  exact fetch_plain hnext rfl rfl (.inl rfl) hkey (plain_fieldText s)

theorem fetch_atColon (s : List Char) :
    (atColon s).fetch = .ok (atValue s ((fieldTokens "" 0).take 4) 0) := by
  have hnext : (atColon s).toNextToken.dropStale = .ok (atColon s) := rfl
  have hvalue : (atColon s).fetchValue = .ok (atValue s ((fieldTokens "" 0).take 4) 0) := rfl
  exact (fetch_colon hnext rfl rfl rfl rfl).trans hvalue

theorem fetch_atValue (n : Nat) : (atValue ('0' :: 'x' :: largest n) [] 4).fetch =
    .ok (atEnd (10 + (n + 2))
      [⟨.scalar (String.ofList ('0' :: 'x' :: largest n)) true, inLine 10, inLine (10 + (n + 2))⟩]
      4) := by
  have hnext : (atValue ('0' :: 'x' :: largest n) [] 4).toNextToken.dropStale =
      .ok (atDigits (largest n)) := rfl
  have hkey : (atDigits (largest n)).saveKey = .ok (atDigits (largest n)) := rfl
  exact fetch_plain hnext rfl rfl (.inr rfl) hkey (plain_largest n)

theorem fetch_atEnd (stop : Nat) : (atEnd stop [] 5).fetch =
    .ok { atEnd stop ((fieldTokens "" stop).drop 5) 5 with
      indent := -1, outer := [], keys := [], done := true } := by
  have hnext : (atEnd stop [] 5).toNextToken = atEnd stop [] 5 := by
    have hmark : ((atEnd stop [] 5).pos.peek == byteOrderMark) = false := rfl
    rw [Scanner.toNextToken, hmark, Bool.and_false]
    rfl
  rw [Scanner.fetch, hnext]
  rfl

theorem ofText_longText (n : Nat) :
    TokenStream.ofText (longText n) =
      ⟨fieldTokens (String.ofList ('0' :: 'x' :: largest n)) (10 + (n + 2)), none⟩ := by
  have hlength : (longText n).length = n + 12 := by
    simp only [longText, fieldText, largest, List.length_cons, List.length_replicate]
  have hfuel : 8 * (n + 12) + 16 = 8 * (n + 12) + 4 + 12 := rfl
  rw [TokenStream.ofText, hlength, hfuel]
  change TokenStream.collect (atStart ('0' :: 'x' :: largest n)) [] _ = _
  rw [collect_fetch rfl (fetch_atStart _), collect_fetch rfl (fetch_atColon _),
    collect_hand rfl rfl, collect_hand rfl rfl, collect_hand rfl rfl, collect_hand rfl rfl]
  change TokenStream.collect (atValue ('0' :: 'x' :: largest n) [] 4) _ _ = _
  rw [collect_fetch rfl (fetch_atValue _), collect_hand rfl rfl]
  change TokenStream.collect (atEnd (10 + (n + 2)) [] 5) _ _ = _
  rw [collect_fetch rfl (fetch_atEnd _), collect_hand rfl rfl, collect_hand rfl rfl]
  rfl

/-! ## The document -/

theorem firstForbidden?_longText (n : Nat) :
    Graph.firstForbidden? 0 (longText n) = none := by
  have hdigits : ∀ n i, Graph.firstForbidden? i (largest n) = none := by
    intro n
    induction n with
    | zero => exact fun _ => rfl
    | succ n ih => exact fun i => ih (i + 1)
  exact hdigits n 12

/-- The nodes of a field with a plain value. -/
def fieldGraph (tag : Tag) (value : String) : Graph :=
  ⟨#[⟨.map, .mapping [(1, 2)], inLine 0⟩, ⟨.str, .scalar "severity", inLine 0⟩,
    ⟨tag, .scalar value, inLine 10⟩], 0⟩

theorem document_fieldTokens (value : String) (stop : Nat) :
    ((Compose.document 22).run { tokens := fieldTokens value stop, failure := none } >>= fun p =>
      pure (p.1.map fun root => Graph.mk p.2.nodes root)) =
        .ok (some (fieldGraph (Tag.evident value.toList) value)) := by
  rfl

theorem ofText_graph_longText (n : Nat) :
    Graph.ofText (longText (n + 1)) =
      .ok (some (fieldGraph .int (String.ofList ('0' :: 'x' :: largest (n + 1))))) := by
  have hgraph := document_fieldTokens (String.ofList ('0' :: 'x' :: largest (n + 1))) (10 + (n + 3))
  rw [String.toList_ofList, evident_largest] at hgraph
  rw [Graph.ofText, firstForbidden?_longText, ofText_longText]
  exact hgraph

/-- The nodes of the document while they are visited. -/
def visiting (value : String) (scalars : List (Nat × Value)) (met : List Nat) : Visitor :=
  { nodes := (fieldGraph .int value).nodes, scalars, met }

/-- A scalar that is a number gets the number as its value. -/
theorem visit_int {s : Visitor} {n : Nat} {text : String} {place : Mark} {v : Value}
    (hnew : ((s.scalars.lookup n).isSome || s.met.contains n) = false)
    (hnode : (s.nodes[n]?).getD Visit.noNode = ⟨.int, .scalar text, place⟩)
    (hvalue : ScalarValue.int text = .ok v) :
    (Visit.visit n).run s = .ok ((), { s with scalars := (n, v) :: s.scalars }) := by
  have hread : ScalarValue.ofText .int text = some (.ok v) := congrArg some hvalue
  have hrun : (Visit.node n).run s = .ok (⟨.int, .scalar text, place⟩, s) :=
    congrArg (fun x => Except.ok (x, s)) hnode
  have htext : (Visit.scalarText n (s.nodes.size + 1)).run s = .ok (text, s) := by
    rw [Visit.scalarText, StateT.run_bind, hrun]
    rfl
  have hget : (get : Visit Visitor).run s = .ok (s, s) := rfl
  have hcollection : Visit.isCollection .int = false := rfl
  rw [Visit.visit, StateT.run_bind, hget]
  simp only [bind, Except.bind, hnew, Bool.false_eq_true, if_false]
  change ((Visit.node n >>= _).run s) = _
  rw [StateT.run_bind, hrun]
  simp only [bind, Except.bind, hcollection, Bool.false_eq_true, if_false]
  change ((Visit.scalarText n _ >>= _).run s) = _
  rw [StateT.run_bind, htext]
  simp only [bind, Except.bind, hread]
  rfl

theorem enter_field {value : String} {v : Value} (h : ScalarValue.int value = .ok v) :
    (Visit.enter 0).run (visiting value [] [0]) =
      .ok ((), visiting value [(2, v), (1, .text "severity")] [0]) := by
  have hkey : (Visit.enter 0).run (visiting value [] [0]) =
      (Visit.visit 2 >>= fun _ => Visit.visitFields (inLine 0) []).run
        (visiting value [(1, .text "severity")] [0]) := rfl
  have hvalue : (Visit.visit 2).run (visiting value [(1, .text "severity")] [0]) =
      .ok ((), visiting value [(2, v), (1, .text "severity")] [0]) := visit_int rfl rfl h
  rw [hkey, StateT.run_bind, hvalue]
  rfl

/-- The document with one field. -/
def fieldDocument (value : String) (v : Value) : Document :=
  { nodes := (fieldGraph .int value).nodes, scalars := [(2, v), (1, .text "severity")], root := 0 }

theorem visited_fieldGraph {value : String} {v : Value} (h : ScalarValue.int value = .ok v) :
    (fieldGraph .int value).visited = .ok (fieldDocument value v) := by
  have hvisit : (do
      Visit.visit 0
      Visit.enterAll 0 4 : Visit Unit).run (visiting value [] []) =
        .ok ((), visiting value [(2, v), (1, .text "severity")] [0]) := by
    change (Visit.enter 0 >>= fun _ => Visit.enterAll 1 3).run (visiting value [] [0]) = _
    rw [StateT.run_bind, enter_field h]
    rfl
  rw [Graph.visited]
  change ((do
      Visit.visit 0
      Visit.enterAll 0 4 : Visit Unit).run (visiting value [] []) >>= _) = _
  rw [hvisit]
  rfl

theorem document_of_graph {text : List Char} {g : Graph} {d : Document}
    (hgraph : Graph.ofText text = .ok (some g)) (hvisited : g.visited = .ok d) :
    Document.ofText (String.ofList text) = .ok (some d) := by
  rw [Document.ofText, String.toList_ofList, hgraph]
  exact congrArg (· >>= fun d => pure (some d)) hvisited

/-- A document with a number of any length is read. -/
theorem document_longText (n : Nat) : Document.ofText (String.ofList (longText (n + 1))) =
    .ok (some (fieldDocument (String.ofList ('0' :: 'x' :: largest (n + 1)))
      (.int (Nat.pow 16 (n + 1) - 1 : Nat)))) :=
  document_of_graph (ofText_graph_longText n) (visited_fieldGraph (int_largest n))

theorem return_not_mem_longText (n : Nat) : '\r' ∉ longText n := by
  simp [longText, fieldText, largest, List.mem_replicate]

theorem isShort_eq_false {m : Nat} (h : Nat.pow 10 Text.decimalLimit ≤ m) :
    Value.isShort m = false := by
  rw [Value.isShort, Int.natAbs_natCast]
  exact decide_eq_false (Nat.not_lt.2 h)

theorem pow_le_of_pow_lt {b c m n k l l' : Nat} (h : Nat.pow b m < Nat.pow c n) (hk : k ≠ 0)
    (hl : l = m * k) (hl' : l' = n * k) : Nat.pow b l ≤ Nat.pow c l' - 1 := by
  subst hl hl'
  rw [Nat.pow_eq, Nat.pow_eq, Nat.pow_mul, Nat.pow_mul]
  exact Nat.le_sub_one_of_lt (Nat.pow_lt_pow_left h hk)

/-- One less than so many hexadecimal digits that decimal ones are too many. -/
def manyDigits : Nat := 3599

theorem decimalLimit_le : Nat.pow 10 Text.decimalLimit ≤ Nat.pow 16 (manyDigits + 1) - 1 :=
  have hlimit : Text.decimalLimit = 43 * 100 := rfl
  have hmany : manyDigits + 1 = 36 * 100 := rfl
  pow_le_of_pow_lt (m := 43) (n := 36) (k := 100) (by decide) (by decide) hlimit hmany

/-- A number that has too many digits cannot be written. -/
theorem isOverlong_longField {n : Nat} (h : Nat.pow 10 Text.decimalLimit ≤ Nat.pow 16 n - 1) :
    (longField n).IsOverlong "severity" := by
  refine ⟨.int (Nat.pow 16 n - 1 : Nat), rfl, ?_⟩
  rw [Value.isWritable, Value.wholeNumbers, List.all_cons, isShort_eq_false h, Bool.false_and]

end SecretScan.Yaml

import SilentAuth.Proofs.Json.Numbers

/-!
# The text of a value is read as that value

The machine reads the compact text of a value and holds the tree of that value afterwards. Only
numbers that are doubles may be read as other ones.

* `Json.reread`: a value as its text says it.
* `ParseTree.Machine.run_write`: the machine over the text of a value, within any open containers.
* `ParseTree.read?_text`: the text of a value is read.
-/

namespace SilentAuth

namespace Json

mutual

/-- A value as its text says it. -/
def reread : Json → Json
  | .null => .null
  | .bool b => .bool b
  | .number n => .number n.reread
  | .string s => .string s
  | .array items => .array (rereadItems items)
  | .object members => .object (rereadMembers members)

/-- The items of an array as their text says them. -/
def rereadItems : List Json → List Json
  | [] => []
  | item :: rest => reread item :: rereadItems rest

/-- The members of an object as their text says them. -/
def rereadMembers : List (String × Json) → List (String × Json)
  | [] => []
  | (key, value) :: rest => (key, reread value) :: rereadMembers rest

end

end Json

namespace ParseTree

namespace Machine

/-- The machine after some characters. -/
def run (m : Machine) (cs : List Char) : Option Machine := (cs.map some).foldlM step m

theorem run_nil (m : Machine) : m.run [] = some m := rfl

theorem run_cons (m : Machine) (c : Char) (rest : List Char) :
    m.run (c :: rest) = (m.step (some c)).bind fun m => m.run rest := rfl

/-- A machine takes two texts in a row one after the other. -/
theorem run_append (m : Machine) (first second : List Char) :
    m.run (first ++ second) = (m.run first).bind fun m => m.run second := by
  unfold run
  rw [List.map_append, List.foldlM_append]
  rfl

/-! ### Strings -/

/-- The hexadecimal digits of the model have the values they are written for. -/
theorem hexValue?_digitChar : ∀ d : Fin 16, TextScan.hexValue? (Nat.digitChar d) = some d.val := by
  decide

/-- A character that belongs to a string. -/
theorem run_text_more {t t' : TextScan} {c : Char} (h : t.step (some c) = .more t') (isKey : Bool)
    (frames : List Frame) (rest : List Char) :
    run ⟨.text isKey t, frames⟩ (c :: rest) = run ⟨.text isKey t', frames⟩ rest := by
  have hstep : step ⟨.text isKey t, frames⟩ (some c) = some ⟨.text isKey t', frames⟩ := by
    simp only [step, h]
  rw [run_cons, hstep, Option.bind_some]

/-- An escape of a letter is read as the character it stands for. -/
theorem run_escape {letter c : Char} (hletter : letter ≠ 'u')
    (hescaped : TextScan.escaped? letter = some c) (isKey : Bool) (frames : List Frame)
    (content : List Char) :
    run ⟨.text isKey ⟨content, true, none, .plain⟩, frames⟩ ['\\', letter] =
      some ⟨.text isKey ⟨c :: content, true, none, .plain⟩, frames⟩ := by
  have hsecond : TextScan.step ⟨content, true, none, .backslash⟩ (some letter) =
      .more ⟨c :: content, true, none, .plain⟩ := by
    simp only [TextScan.step, if_neg hletter, hescaped, TextScan.push]
    rfl
  rw [@run_text_more _ ⟨content, true, none, .backslash⟩ _ rfl, run_text_more hsecond, run_nil]

/-- An escape by four digits is read as the character with that code. -/
theorem run_hexEscape {c : Char} (hc : c.toNat < 32) (isKey : Bool) (frames : List Frame)
    (content : List Char) :
    run ⟨.text isKey ⟨content, true, none, .plain⟩, frames⟩
        ('\\' :: 'u' :: '0' :: '0' :: Json.hexByte c.toNat) =
      some ⟨.text isKey ⟨c :: content, true, none, .plain⟩, frames⟩ := by
  have hhigh := hexValue?_digitChar ⟨c.toNat / 16, by omega⟩
  have hlow := hexValue?_digitChar ⟨c.toNat % 16, by omega⟩
  dsimp only at hhigh hlow
  have hthird : TextScan.step ⟨content, true, none, .hex 2 0⟩
      (some (Nat.digitChar (c.toNat / 16))) =
        .more ⟨content, true, none, .hex 3 (0 * 16 + c.toNat / 16)⟩ := by
    simp only [TextScan.step, hhigh]
    rfl
  have hcode : (0 * 16 + c.toNat / 16) * 16 + c.toNat % 16 = c.toNat := by omega
  have hfourth : TextScan.step ⟨content, true, none, .hex 3 (0 * 16 + c.toNat / 16)⟩
      (some (Nat.digitChar (c.toNat % 16))) =
        .more ⟨c :: content, true, none, .plain⟩ := by
    have hlead : (decide (0xD800 ≤ c.toNat) && decide (c.toNat < 0xDC00)) = false := by
      simp only [Bool.and_eq_false_iff, decide_eq_false_iff_not]
      omega
    have htrail : (decide (0xDC00 ≤ c.toNat) && decide (c.toNat < 0xE000)) = false := by
      simp only [Bool.and_eq_false_iff, decide_eq_false_iff_not]
      omega
    simp only [TextScan.step, hlow, hcode, TextScan.pushUnit, hlead, htrail, TextScan.push,
      Char.ofNat_toNat]
    rfl
  unfold Json.hexByte
  rw [@run_text_more _ ⟨content, true, none, .backslash⟩ _ rfl,
    @run_text_more _ ⟨content, true, none, .hex 0 0⟩ _ rfl,
    @run_text_more _ ⟨content, true, none, .hex 1 0⟩ _ rfl,
    @run_text_more _ ⟨content, true, none, .hex 2 0⟩ _ rfl, run_text_more hthird,
    run_text_more hfourth, run_nil]

/-- A character stands in a string for itself. -/
theorem run_escapeChar (isKey : Bool) (frames : List Frame) (content : List Char) (c : Char) :
    run ⟨.text isKey ⟨content, true, none, .plain⟩, frames⟩ (Json.escapeChar c) =
      some ⟨.text isKey ⟨c :: content, true, none, .plain⟩, frames⟩ := by
  unfold Json.escapeChar
  split
  · rename_i h
    subst h
    exact run_escape (by decide) rfl isKey frames content
  split
  · rename_i h
    subst h
    exact run_escape (by decide) rfl isKey frames content
  split
  · rename_i hquote hbackslash hlarge
    have hplain : TextScan.step ⟨content, true, none, .plain⟩ (some c) =
        .more ⟨c :: content, true, none, .plain⟩ := by
      simp only [TextScan.step, if_neg hquote, if_neg hbackslash, if_neg (Nat.not_lt.2 hlarge),
        TextScan.push]
      rfl
    rw [run_text_more hplain, run_nil]
  · rename_i hsmall
    split
    · rename_i h
      subst h
      exact run_escape (by decide) rfl isKey frames content
    split
    · rename_i h
      subst h
      exact run_escape (by decide) rfl isKey frames content
    split
    · rename_i h
      subst h
      exact run_escape (by decide) rfl isKey frames content
    split
    · rename_i h
      subst h
      exact run_escape (by decide) rfl isKey frames content
    split
    · rename_i h
      subst h
      exact run_escape (by decide) rfl isKey frames content
    · exact run_hexEscape (by omega) isKey frames content

/-- The rest of a string, with its closing quote. -/
theorem run_textRest (isKey : Bool) (frames : List Frame) (content cs : List Char) :
    run ⟨.text isKey ⟨content, true, none, .plain⟩, frames⟩
        (cs.flatMap Json.escapeChar ++ ['"']) =
      some (giveText isKey frames (some (String.ofList (content.reverse ++ cs)))) := by
  induction cs generalizing content with
  | nil =>
    rw [List.append_nil]
    rfl
  | cons c rest ih =>
    rw [List.flatMap_cons, List.append_assoc, run_append, run_escapeChar, Option.bind_some, ih,
      List.reverse_cons, List.append_assoc, List.singleton_append]

/-- A string after its opening quote. -/
theorem run_writeString (isKey : Bool) (frames : List Frame) (s : String) :
    run ⟨.text isKey .start, frames⟩ (s.toList.flatMap Json.escapeChar ++ ['"']) =
      some (giveText isKey frames (some s)) := by
  have h := run_textRest isKey frames [] s.toList
  rw [List.reverse_nil, List.nil_append, String.ofList_toList] at h
  exact h

/-! ### Finished values -/

/-- The machine holds a finished value within the containers that are open. A number is finished by
the character after it. -/
inductive Holds (frames : List Frame) (tree : ParseTree) : Machine → Prop where
  | given : Holds frames tree (give frames tree)
  | number {n : NumberScan} {m : Number} (complete : n.complete = true) (hvalue : n.value? = some m)
      (htree : tree = .number (some m)) : Holds frames tree ⟨.number n, frames⟩

/-- A character between values ends a complete number. -/
theorem numberStep_eq_ended {n : NumberScan} (hn : n.complete = true) {c : Char}
    (hc : c = ',' ∨ c = ']' ∨ c = '}') : n.step c = .ended := by
  obtain ⟨stage, negative, whole, fraction, exponentNegative, exponent⟩ := n
  rcases hc with rfl | rfl | rfl
  · cases stage <;> first | rfl | cases hn
  · cases stage <;> first | rfl | cases hn
  · cases stage <;> first | rfl | cases hn

/-- A character between values is taken as after the finished value. -/
theorem Holds.step_eq {frames : List Frame} {tree : ParseTree} {m : Machine}
    (h : Holds frames tree m) {c : Char} (hc : c = ',' ∨ c = ']' ∨ c = '}') :
    m.step (some c) = (give frames tree).between? c := by
  cases h with
  | given =>
    cases frames with
    | nil => rfl
    | cons frame outer =>
      cases frame with
      | array items => rfl
      | object members key => rfl
  | number complete hvalue htree =>
    unfold step
    simp only [numberStep_eq_ended complete hc]
    rw [hvalue, htree]

/-- A comma after an item. -/
theorem Holds.comma_array {items : List ParseTree} {outer : List Frame} {tree : ParseTree}
    {m : Machine} (h : Holds (.array items :: outer) tree m) :
    m.step (some ',') = some ⟨.value, .array (tree :: items) :: outer⟩ := by
  rw [h.step_eq (.inl rfl)]
  rfl

/-- The end of an array after its last item. -/
theorem Holds.close_array {items : List ParseTree} {outer : List Frame} {tree : ParseTree}
    {m : Machine} (h : Holds (.array items :: outer) tree m) :
    m.step (some ']') = some (give outer (.array (tree :: items).reverse)) := by
  rw [h.step_eq (.inr (.inl rfl))]
  rfl

/-- A comma after a member. -/
theorem Holds.comma_object {members : List (Option String × ParseTree)} {key : Option String}
    {outer : List Frame} {tree : ParseTree} {m : Machine}
    (h : Holds (.object members key :: outer) tree m) :
    m.step (some ',') = some ⟨.key, .object ((key, tree) :: members) none :: outer⟩ := by
  rw [h.step_eq (.inl rfl)]
  rfl

/-- The end of an object after its last member. -/
theorem Holds.close_object {members : List (Option String × ParseTree)} {key : Option String}
    {outer : List Frame} {tree : ParseTree} {m : Machine}
    (h : Holds (.object members key :: outer) tree m) :
    m.step (some '}') = some (give outer (.object ((key, tree) :: members).reverse)) := by
  rw [h.step_eq (.inr (.inr rfl))]
  rfl

/-- The end of the text after the whole value. -/
theorem Holds.finish {tree : ParseTree} {m : Machine} (h : Holds [] tree m) :
    m.finish? = some tree := by
  cases h with
  | given => rfl
  | number complete hvalue htree =>
    unfold finish?
    dsimp only
    rw [if_pos complete, hvalue, htree]

/-! ### Numbers -/

/-- A character of a number. -/
theorem run_number {n n' : NumberScan} {cs : List Char} (h : cs.foldlM NumberScan.take? n = some n')
    (frames : List Frame) : run ⟨.number n, frames⟩ cs = some ⟨.number n', frames⟩ := by
  induction cs generalizing n with
  | nil =>
    obtain rfl := Option.some.inj h
    rfl
  | cons c rest ih =>
    rw [List.foldlM_cons] at h
    obtain ⟨first, hfirst, hrest⟩ := Option.bind_eq_some_iff.1 h
    have hstep : step ⟨.number n, frames⟩ (some c) = some ⟨.number first, frames⟩ := by
      unfold NumberScan.take? at hfirst
      unfold step
      dsimp only
      cases hn : n.step c with
      | more m =>
        rw [hn] at hfirst
        obtain rfl := Option.some.inj hfirst
        rfl
      | ended =>
        rw [hn] at hfirst
        cases hfirst
      | refused =>
        rw [hn] at hfirst
        cases hfirst
    rw [run_cons, hstep, Option.bind_some, ih hrest]

/-- The first character of a number is no other token. -/
theorem beginValue?_of_start? {c : Char} {n : NumberScan} (h : NumberScan.start? c = some n)
    (frames : List Frame) {phase : Phase} (hphase : phase = .value ∨ phase = .firstItem) :
    step ⟨phase, frames⟩ (some c) = some ⟨.number n, frames⟩ := by
  have hchar : c = '-' ∨ c.isDigit = true := by
    unfold NumberScan.start? at h
    split at h
    · exact .inl ‹_›
    · by_contra hnot
      rw [not_or, Bool.not_eq_true] at hnot
      rw [digitValue?_eq_none hnot.2] at h
      cases h
  have hne : ∀ other : Char, other ≠ '-' → other.isDigit = false → c ≠ other := by
    rintro other hminus hdigit rfl
    rcases hchar with rfl | hc
    · exact hminus rfl
    · rw [hc] at hdigit
      cases hdigit
  have hspace : isSpace c = false := by
    unfold isSpace
    simp only [Bool.or_eq_false_iff, decide_eq_false_iff_not]
    exact ⟨⟨⟨hne _ (by decide) (by decide), hne _ (by decide) (by decide)⟩,
      hne _ (by decide) (by decide)⟩, hne _ (by decide) (by decide)⟩
  have hbegin : beginValue? frames c = some ⟨.number n, frames⟩ := by
    unfold beginValue?
    rw [if_neg (hne _ (by decide) (by decide)), if_neg (hne _ (by decide) (by decide)),
      if_neg (hne _ (by decide) (by decide)), if_neg (hne _ (by decide) (by decide)),
      if_neg (hne _ (by decide) (by decide)), if_neg (hne _ (by decide) (by decide)), h]
    rfl
  rcases hphase with rfl | rfl
  · unfold step between?
    simp only [hspace]
    exact hbegin
  · unfold step between?
    simp only [hspace, if_neg (hne ']' (by decide) (by decide))]
    exact hbegin

/-- The text of a number. -/
theorem run_writeNumber (n : Number) (frames : List Frame) {phase : Phase}
    (hphase : phase = .value ∨ phase = .firstItem) :
    ∃ m, run ⟨phase, frames⟩ n.write = some m ∧ Holds frames (.number (some n.reread)) m := by
  obtain ⟨scan, hscan, hcomplete, hvalue⟩ := n.scanned
  refine ⟨⟨.number scan, frames⟩, ?_, .number hcomplete hvalue rfl⟩
  cases hchars : n.write with
  | nil =>
    rw [hchars] at hscan
    cases hscan
  | cons c rest =>
    rw [hchars] at hscan
    obtain ⟨first, hfirst, hrest⟩ := Option.bind_eq_some_iff.1 hscan
    rw [run_cons, beginValue?_of_start? hfirst frames hphase, Option.bind_some,
      run_number hrest]

/-! ### Values -/

/-- A key and its colon. -/
theorem run_writeKey (key : String) (members : List (Option String × ParseTree))
    (frames : List Frame) {phase : Phase} (hphase : phase = .key ∨ phase = .firstKey)
    (rest : List Char) :
    run ⟨phase, .object members none :: frames⟩ (Json.writeString key ++ ':' :: rest) =
      run ⟨.value, .object members (some key) :: frames⟩ rest := by
  have hopen : step ⟨phase, .object members none :: frames⟩ (some '"') =
      some ⟨.text true .start, .object members none :: frames⟩ := by
    rcases hphase with rfl | rfl
    · rfl
    · rfl
  have hcolon : step ⟨.colon, .object members (some key) :: frames⟩ (some ':') =
      some ⟨.value, .object members (some key) :: frames⟩ := rfl
  unfold Json.writeString
  rw [List.cons_append, List.cons_append, run_cons, hopen, Option.bind_some, run_append,
    run_writeString, Option.bind_some]
  show run ⟨.colon, .object members (some key) :: frames⟩ (':' :: rest) = _
  rw [run_cons, hcolon, Option.bind_some]

mutual

/-- The text of a value, within any open containers. -/
theorem run_write : ∀ (v : Json) (frames : List Frame) {phase : Phase},
    phase = .value ∨ phase = .firstItem →
      ∃ m, run ⟨phase, frames⟩ v.write = some m ∧ Holds frames (ofValue v.reread) m
  | .null, _, _, hphase => ⟨_, by rcases hphase with rfl | rfl <;> rfl, .given⟩
  | .bool true, _, _, hphase => ⟨_, by rcases hphase with rfl | rfl <;> rfl, .given⟩
  | .bool false, _, _, hphase => ⟨_, by rcases hphase with rfl | rfl <;> rfl, .given⟩
  | .number n, frames, _, hphase => by
    rw [Json.write, Json.reread, ofValue]
    exact run_writeNumber n frames hphase
  | .string s, frames, phase, hphase => by
    have hopen : step ⟨phase, frames⟩ (some '"') = some ⟨.text false .start, frames⟩ := by
      rcases hphase with rfl | rfl <;> rfl
    refine ⟨give frames (.string (some s)), ?_, .given⟩
    rw [Json.write, Json.writeString, List.cons_append, run_cons, hopen, Option.bind_some,
      run_writeString]
    rfl
  | .array [], _, _, hphase => ⟨_, by rcases hphase with rfl | rfl <;> rfl, .given⟩
  | .array (item :: rest), frames, phase, hphase => by
    have hopen : step ⟨phase, frames⟩ (some '[') = some ⟨.firstItem, .array [] :: frames⟩ := by
      rcases hphase with rfl | rfl <;> rfl
    refine ⟨give frames (.array (ofValues (Json.rereadItems (item :: rest)))), ?_, ?_⟩
    · rw [Json.write, List.cons_append, run_cons, hopen, Option.bind_some,
        run_writeItems (item :: rest) (List.cons_ne_nil _ _) frames [] (.inr rfl)]
      rfl
    · rw [Json.reread, ofValue]
      exact .given
  | .object [], _, _, hphase => ⟨_, by rcases hphase with rfl | rfl <;> rfl, .given⟩
  | .object (member :: rest), frames, phase, hphase => by
    have hopen : step ⟨phase, frames⟩ (some '{') =
        some ⟨.firstKey, .object [] none :: frames⟩ := by
      rcases hphase with rfl | rfl <;> rfl
    refine ⟨give frames (.object (ofMemberValues (Json.rereadMembers (member :: rest)))), ?_, ?_⟩
    · rw [Json.write, List.cons_append, run_cons, hopen, Option.bind_some,
        run_writeMembers (member :: rest) (List.cons_ne_nil _ _) frames [] (.inr rfl)]
      rfl
    · rw [Json.reread, ofValue]
      exact .given

/-- The items of an array that is open, with its end. -/
theorem run_writeItems : ∀ items : List Json, items ≠ [] → ∀ (frames : List Frame)
    (trees : List ParseTree) {phase : Phase}, phase = .value ∨ phase = .firstItem →
      run ⟨phase, .array trees :: frames⟩ (Json.writeItems items ++ [']']) =
        some (give frames (.array (trees.reverse ++ ofValues (Json.rereadItems items))))
  | [], h, _, _, _, _ => absurd rfl h
  | [item], _, frames, trees, _, hphase => by
    obtain ⟨m, hm, hholds⟩ := run_write item (.array trees :: frames) hphase
    rw [Json.writeItems, run_append, hm, Option.bind_some, run_cons, hholds.close_array,
      List.reverse_cons]
    rfl
  | item :: next :: rest, _, frames, trees, _, hphase => by
    obtain ⟨m, hm, hholds⟩ := run_write item (.array trees :: frames) hphase
    have hrest := run_writeItems (next :: rest) (List.cons_ne_nil _ _) frames
      (ofValue item.reread :: trees) (.inl rfl)
    rw [List.reverse_cons, List.append_assoc] at hrest
    rw [Json.writeItems, List.append_assoc, run_append, hm, Option.bind_some, List.cons_append,
      run_cons, hholds.comma_array, Option.bind_some, hrest]
    rfl

/-- The members of an object that is open, with its end. -/
theorem run_writeMembers : ∀ members : List (String × Json), members ≠ [] →
    ∀ (frames : List Frame) (trees : List (Option String × ParseTree)) {phase : Phase},
      phase = .key ∨ phase = .firstKey →
        run ⟨phase, .object trees none :: frames⟩ (Json.writeMembers members ++ ['}']) =
          some (give frames
            (.object (trees.reverse ++ ofMemberValues (Json.rereadMembers members))))
  | [], h, _, _, _, _ => absurd rfl h
  | [(key, value)], _, frames, trees, _, hphase => by
    obtain ⟨m, hm, hholds⟩ := run_write value (.object trees (some key) :: frames) (.inl rfl)
    rw [Json.writeMembers, List.append_assoc, List.cons_append, run_writeKey key _ _ hphase,
      run_append, hm, Option.bind_some, run_cons, hholds.close_object, List.reverse_cons]
    rfl
  | (key, value) :: next :: rest, _, frames, trees, _, hphase => by
    obtain ⟨m, hm, hholds⟩ := run_write value (.object trees (some key) :: frames) (.inl rfl)
    have hrest := run_writeMembers (next :: rest) (List.cons_ne_nil _ _) frames
      ((some key, ofValue value.reread) :: trees) (.inl rfl)
    rw [List.reverse_cons, List.append_assoc] at hrest
    rw [Json.writeMembers, List.append_assoc, List.append_assoc, List.cons_append,
      run_writeKey key _ _ hphase, List.cons_append, run_append, hm, Option.bind_some, run_cons,
      hholds.comma_object, Option.bind_some, hrest]
    rfl

end

end Machine

/-- The text of a value says that value. -/
theorem read?_text (v : Json) : read? v.text = some (ofValue v.reread) := by
  obtain ⟨m, hm, hholds⟩ := Machine.run_write v [] (.inl rfl)
  have hread : readChars? (v.write.map some) = (Machine.run .start v.write).bind Machine.finish? :=
    rfl
  unfold read? Json.text
  rw [String.toList_ofList, hread]
  unfold Machine.start
  rw [hm, Option.bind_some, hholds.finish]

end ParseTree

end SilentAuth

import FolderTag.Proofs.Document.Json.Form

/-! # Reading what was written

A value of texts, truth values, whole numbers, lists and mappings is read back from its form. The
reader has a step for each character of the form, and what follows a value is left to it. -/

namespace FolderTag.Document.Json

/-- A value is read from its form, in no more steps than the form has characters. -/
def ReadsBack (v : Value) : Prop :=
  ∀ level fuel o rest, Follows rest → (form level v).length ≤ fuel →
    ∃ o', readValue fuel ⟨o, form level v ++ rest⟩ = .ok (v, ⟨o', rest⟩)

variable {level outer fuel o : Nat} {v : Value} {rest : List Char} {c : Char}

/-! ## Blanks -/

theorem skipSpace_append (blanks : List Char) (hblanks : ∀ d ∈ blanks, Place.isSpace d = true)
    (hc : Place.isSpace c = false) :
    Place.skipSpace ⟨o, blanks ++ c :: rest⟩ = ⟨o + blanks.length, c :: rest⟩ := by
  have hrun : (blanks ++ c :: rest).takeWhile Place.isSpace = blanks := by
    rw [List.takeWhile_append_of_pos hblanks]
    simp [hc]
  rw [Place.skipSpace, hrun, Place.skip, List.drop_left]

theorem skipSpace_of_not_space (hc : Place.isSpace c = false) :
    Place.skipSpace ⟨o, c :: rest⟩ = ⟨o, c :: rest⟩ :=
  skipSpace_append [] (by simp) hc

/-- A line break and all that indents the next line is skipped. -/
theorem skipSpace_newLine (hc : Place.isSpace c = false) :
    Place.skipSpace ⟨o, newLine level ++ c :: rest⟩ = ⟨o + (newLine level).length, c :: rest⟩ :=
  skipSpace_append _ (by simp [newLine, Place.isSpace]) hc

theorem follows_newLine : Follows (newLine level ++ rest) := .inr rfl

theorem follows_comma : Follows (',' :: rest) := .inl rfl

theorem length_newLine_pos (level : Nat) : 0 < (newLine level).length := by simp [newLine]

/-! ## One item and one entry -/

section Step

variable {p q : Place} {done : List Value}

theorem readItems_last (hv : readValue fuel p = .ok (v, q)) (hq : q.skipSpace = ⟨o, ']' :: rest⟩) :
    readItems (fuel + 1) done p = .ok (.list (v :: done).reverse, ⟨o + 1, rest⟩) := by
  rw [readItems, hv, ok_bind]
  simp only [hq]
  rfl

theorem readItems_comma (hv : readValue fuel p = .ok (v, q)) (hq : q.skipSpace = ⟨o, ',' :: rest⟩) :
    readItems (fuel + 1) done p = readItems fuel (v :: done) (Place.skipSpace ⟨o + 1, rest⟩) := by
  rw [readItems, hv, ok_bind]
  simp only [hq]
  rfl

/-- A name is read up to the value behind its colon. -/
theorem readEntries_name (fuel o : Nat) (entries : Entries) (name : String) (h : IsJson v)
    (level : Nat) (text : List Char) :
    ∃ o₁, readEntries (fuel + 1) entries ⟨o, textForm name ++ ':' :: ' ' :: (form level v ++ text)⟩ =
      readValue fuel ⟨o₁, form level v ++ text⟩ >>= fun (v, q) =>
        match q.skipSpace.rest with
        | '\x7d' :: _ => .ok (.map (Value.put (.text name) v entries), q.skipSpace.skip 1)
        | ',' :: _ =>
            readEntries fuel (Value.put (.text name) v entries) (q.skipSpace.skip 1).skipSpace
        | _ => q.skipSpace.refuse .expectedComma := by
  obtain ⟨c, cs, hform, hc, -⟩ := exists_form_eq_cons h level
  obtain ⟨o₁, hname⟩ := exists_readText_textForm name o (':' :: ' ' :: (form level v ++ text))
  have hcolon : Place.skipSpace ⟨o₁, ':' :: ' ' :: (form level v ++ text)⟩ =
      ⟨o₁, ':' :: ' ' :: (form level v ++ text)⟩ := skipSpace_of_not_space rfl
  have hblank : Place.skipSpace ⟨o₁ + 1, ' ' :: (form level v ++ text)⟩ =
      ⟨o₁ + 1 + [' '].length, form level v ++ text⟩ := by
    rw [hform]
    exact skipSpace_append [' '] (by simp [Place.isSpace]) hc
  refine ⟨o₁ + 1 + [' '].length, ?_⟩
  rw [readEntries]
  simp only [textForm, List.cons_append] at hname ⊢
  rw [hname, ok_bind]
  simp only [hcolon]
  exact congrArg (readValue fuel · >>= _) hblank

/-- The last entry of a mapping. -/
theorem readEntries_last (o outer : Nat) {done : List (String × Value)} {f : String × Value}
    (hnew : f.1 ∉ done.map Prod.fst) (h : IsJson f.2) (hread : ReadsBack f.2)
    (hfuel : (form level f.2).length ≤ fuel) :
    ∃ o', readEntries (fuel + 1) (Value.entriesOf done) ⟨o, textForm f.1 ++ ':' :: ' ' ::
        (form level f.2 ++ (newLine outer ++ '\x7d' :: rest))⟩ =
      .ok (Value.ofFields (done ++ [f]), ⟨o', rest⟩) := by
  obtain ⟨o₁, hname⟩ := readEntries_name fuel o (Value.entriesOf done) f.1 h level
    (newLine outer ++ '\x7d' :: rest)
  obtain ⟨o₂, hv⟩ := hread level fuel o₁ _ follows_newLine hfuel
  have hskip : Place.skipSpace ⟨o₂, newLine outer ++ '\x7d' :: rest⟩ =
      ⟨o₂ + (newLine outer).length, '\x7d' :: rest⟩ := skipSpace_newLine rfl
  refine ⟨o₂ + (newLine outer).length + 1, ?_⟩
  rw [hname, hv, ok_bind]
  simp only [hskip, Value.put_of_notMem hnew]
  rfl

/-- An entry of a mapping in front of another one. -/
theorem readEntries_comma (o : Nat) {done : List (String × Value)} {f : String × Value}
    (rest : List Char) (hnew : f.1 ∉ done.map Prod.fst) (h : IsJson f.2) (hread : ReadsBack f.2)
    (hfuel : (form level f.2).length ≤ fuel) :
    ∃ o', readEntries (fuel + 1) (Value.entriesOf done) ⟨o, textForm f.1 ++ ':' :: ' ' ::
        (form level f.2 ++ ',' :: rest)⟩ =
      readEntries fuel (Value.entriesOf (done ++ [f])) (Place.skipSpace ⟨o', rest⟩) := by
  obtain ⟨o₁, hname⟩ := readEntries_name fuel o (Value.entriesOf done) f.1 h level (',' :: rest)
  obtain ⟨o₂, hv⟩ := hread level fuel o₁ _ follows_comma hfuel
  have hskip : Place.skipSpace ⟨o₂, ',' :: rest⟩ = ⟨o₂, ',' :: rest⟩ := skipSpace_of_not_space rfl
  refine ⟨o₂ + 1, ?_⟩
  rw [hname, hv, ok_bind]
  simp only [hskip, Value.put_of_notMem hnew]
  rfl

end Step

/-! ## Items and entries -/

/-- What stands behind an item of a list in front of the items `vs`. -/
def itemsEnd (level outer : Nat) (vs : List Value) (rest : List Char) : List Char :=
  itemsForm level vs ++ (newLine outer ++ ']' :: rest)

theorem itemsEnd_cons (v : Value) (vs : List Value) :
    itemsEnd level outer (v :: vs) rest =
      ',' :: (newLine level ++ (form level v ++ itemsEnd level outer vs rest)) := by
  simp [itemsEnd, itemsForm]

/-- The items of a list are read one after the other. -/
theorem readItems_itemsEnd (level outer fuel o : Nat) (done : List Value) {vs : List Value}
    (hjson : ∀ w ∈ v :: vs, IsJson w) (hread : ∀ w ∈ v :: vs, ReadsBack w)
    (hfuel : (form level v).length + (itemsForm level vs).length < fuel) :
    ∃ o', readItems fuel done ⟨o, form level v ++ itemsEnd level outer vs rest⟩ =
      .ok (.list (done.reverse ++ v :: vs), ⟨o', rest⟩) := by
  induction vs generalizing v done fuel o with
  | nil =>
      obtain ⟨fuel, rfl⟩ := Nat.exists_eq_add_one.2 (Nat.zero_lt_of_lt hfuel)
      obtain ⟨o₁, hv⟩ := hread v (List.mem_cons_self ..) level fuel o _ follows_newLine (by omega)
      have hskip : Place.skipSpace ⟨o₁, newLine outer ++ ']' :: rest⟩ =
          ⟨o₁ + (newLine outer).length, ']' :: rest⟩ := skipSpace_newLine rfl
      refine ⟨o₁ + (newLine outer).length + 1, ?_⟩
      rw [itemsEnd, itemsForm, List.nil_append, readItems_last hv hskip, List.reverse_cons]
  | cons w vs ih =>
      obtain ⟨fuel, rfl⟩ := Nat.exists_eq_add_one.2 (Nat.zero_lt_of_lt hfuel)
      obtain ⟨c, cs, hform, hc, -⟩ := exists_form_eq_cons (hjson w (by simp)) level
      rw [itemsForm, List.length_cons, List.length_append, List.length_append] at hfuel
      obtain ⟨o₁, hv⟩ := hread v (List.mem_cons_self ..) level fuel o
        (',' :: (newLine level ++ (form level w ++ itemsEnd level outer vs rest)))
        follows_comma (by omega)
      have hskip : Place.skipSpace ⟨o₁ + 1, newLine level ++
          (form level w ++ itemsEnd level outer vs rest)⟩ =
          ⟨o₁ + 1 + (newLine level).length, form level w ++ itemsEnd level outer vs rest⟩ := by
        rw [hform]
        exact skipSpace_newLine hc
      obtain ⟨o', hothers⟩ := ih fuel (o₁ + 1 + (newLine level).length) (v :: done)
        (fun x hx => hjson x (List.mem_cons_of_mem v hx))
        (fun x hx => hread x (List.mem_cons_of_mem v hx)) (by omega)
      refine ⟨o', ?_⟩
      rw [itemsEnd_cons, readItems_comma hv (skipSpace_of_not_space rfl), hskip, hothers,
        List.reverse_cons, List.append_assoc, List.singleton_append]

/-- What stands behind an entry of a mapping in front of the entries of `fields`. -/
def entriesEnd (level outer : Nat) (fields : List (String × Value)) (rest : List Char) : List Char :=
  entriesForm level (Value.entriesOf fields) ++ (newLine outer ++ '\x7d' :: rest)

theorem entriesEnd_cons (f : String × Value) (fields : List (String × Value)) :
    entriesEnd level outer (f :: fields) rest =
      ',' :: (newLine level ++ (textForm f.1 ++ ':' :: ' ' ::
        (form level f.2 ++ entriesEnd level outer fields rest))) := by
  simp [entriesEnd, entriesForm, keyForm]

/-- The entries of a mapping are read one after the other, and none of them takes the place of
another. -/
theorem readEntries_entriesEnd (level outer fuel o : Nat) (done : List (String × Value))
    {f : String × Value} {fields : List (String × Value)}
    (hnames : ((done ++ f :: fields).map Prod.fst).Nodup)
    (hjson : ∀ g ∈ f :: fields, IsJson g.2) (hread : ∀ g ∈ f :: fields, ReadsBack g.2)
    (hfuel : (form level f.2).length +
      (entriesForm level (Value.entriesOf fields)).length < fuel) :
    ∃ o', readEntries fuel (Value.entriesOf done) ⟨o, textForm f.1 ++ ':' :: ' ' ::
        (form level f.2 ++ entriesEnd level outer fields rest)⟩ =
      .ok (Value.ofFields (done ++ f :: fields), ⟨o', rest⟩) := by
  have hnew : f.1 ∉ done.map Prod.fst := Value.fst_notMem_of_nodup hnames
  induction fields generalizing f done fuel o with
  | nil =>
      obtain ⟨fuel, rfl⟩ := Nat.exists_eq_add_one.2 (Nat.zero_lt_of_lt hfuel)
      have hvalue : (form level f.2).length ≤ fuel := by omega
      exact readEntries_last o outer hnew (hjson f (List.mem_cons_self ..))
        (hread f (List.mem_cons_self ..)) hvalue
  | cons g fields ih =>
      obtain ⟨fuel, rfl⟩ := Nat.exists_eq_add_one.2 (Nat.zero_lt_of_lt hfuel)
      have hlength : (form level g.2).length +
          (entriesForm level (Value.entriesOf fields)).length <
          (entriesForm level (Value.entriesOf (g :: fields))).length := by
        simp only [Value.entriesOf_cons, entriesForm, List.length_cons, List.length_append]
        omega
      have hvalue : (form level f.2).length ≤ fuel := by omega
      obtain ⟨o₁, hcomma⟩ := readEntries_comma o (newLine level ++ (textForm g.1 ++ ':' :: ' ' ::
        (form level g.2 ++ entriesEnd level outer fields rest))) hnew
        (hjson f (List.mem_cons_self ..)) (hread f (List.mem_cons_self ..)) hvalue
      have hskip : Place.skipSpace ⟨o₁, newLine level ++ (textForm g.1 ++ ':' :: ' ' ::
            (form level g.2 ++ entriesEnd level outer fields rest))⟩ =
          ⟨o₁ + (newLine level).length, textForm g.1 ++ ':' :: ' ' ::
            (form level g.2 ++ entriesEnd level outer fields rest)⟩ := skipSpace_newLine rfl
      have hnames' : ((done ++ [f] ++ g :: fields).map Prod.fst).Nodup := by simpa using hnames
      obtain ⟨o', hothers⟩ := ih fuel (o₁ + (newLine level).length) (done ++ [f]) hnames'
        (fun x hx => hjson x (List.mem_cons_of_mem f hx))
        (fun x hx => hread x (List.mem_cons_of_mem f hx)) (by omega)
        (Value.fst_notMem_of_nodup hnames')
      refine ⟨o', ?_⟩
      rw [entriesEnd_cons, hcomma, hskip, hothers, List.append_assoc, List.singleton_append]

/-! ## Values -/

theorem form_list_append (v : Value) (vs : List Value) :
    form level (.list (v :: vs)) ++ rest =
      '[' :: (newLine (level + 1) ++ (form (level + 1) v ++ itemsEnd (level + 1) level vs rest)) := by
  simp [form, itemsEnd]

theorem form_ofFields_append (f : String × Value) (fields : List (String × Value)) :
    form level (Value.ofFields (f :: fields)) ++ rest =
      '\x7b' :: (newLine (level + 1) ++ (textForm f.1 ++ ':' :: ' ' ::
        (form (level + 1) f.2 ++ entriesEnd (level + 1) level fields rest))) := by
  simp [Value.ofFields_eq, form, keyForm, entriesEnd]

/-- The items of a list are looked for behind the blanks that follow its bracket. -/
theorem readValue_list (h : IsJson v) {text : List Char} :
    readValue (fuel + 1) ⟨o, '[' :: (newLine outer ++ (form level v ++ text))⟩ =
      readItems fuel [] ⟨o + 1 + (newLine outer).length, form level v ++ text⟩ := by
  obtain ⟨c, cs, hform, hc, hend, -⟩ := exists_form_eq_cons h level
  rw [readValue]
  simp only [Place.skip, List.drop_succ_cons, List.drop_zero, hform, List.cons_append,
    skipSpace_newLine hc, List.head?_cons, Option.some.injEq, if_neg hend]

theorem readValue_ofFields {name : String} {text : List Char} :
    readValue (fuel + 1) ⟨o, '\x7b' :: (newLine outer ++ (textForm name ++ text))⟩ =
      readEntries fuel [] ⟨o + 1 + (newLine outer).length, textForm name ++ text⟩ := by
  have hskip : Place.skipSpace ⟨o + 1, newLine outer ++ (textForm name ++ text)⟩ =
      ⟨o + 1 + (newLine outer).length, textForm name ++ text⟩ := skipSpace_newLine rfl
  rw [readValue]
  simp only [Place.skip, List.drop_succ_cons, List.drop_zero, hskip]
  rfl

/-- A whole number begins like none of the words. -/
theorem find?_words_intText (n : Int) (rest : List Char) :
    (words.find? fun (w, _) => w.isPrefixOf (intText n ++ rest)) = none := by
  obtain ⟨d, ds, hdigits, hdigit⟩ := exists_toDigits_eq_cons n.natAbs
  have hne : ∀ x : Char, x.isDigit = false → (x == d) = false := by
    intro x hx
    refine beq_false_of_ne ?_
    rintro rfl
    simp [hx] at hdigit
  by_cases hn : n < 0
  · simp [intText, hn, hdigits, words, List.isPrefixOf, hne]
  · simp [intText, hn, hdigits, words, List.isPrefixOf, hne]

theorem readValue_intText (n : Int) :
    readValue (fuel + 1) ⟨o, intText n ++ rest⟩ = readNumber ⟨o, intText n ++ rest⟩ := by
  have hwords := find?_words_intText n rest
  obtain ⟨c, cs, hform, hc⟩ := exists_intText_eq_cons n
  rw [hform, List.cons_append] at hwords ⊢
  have hne : ∀ x : Char, x ≠ '-' → x.isDigit = false → c ≠ x := by
    rintro x hminus hx rfl
    simp [hx, hminus] at hc
  rw [readValue]
  split
  case h_1 heq => cases heq
  case h_2 heq => exact absurd (List.cons.inj heq).1 (hne _ (by decide) (by decide))
  case h_3 heq => exact absurd (List.cons.inj heq).1 (hne _ (by decide) (by decide))
  case h_4 heq => exact absurd (List.cons.inj heq).1 (hne _ (by decide) (by decide))
  case h_5 => simp only [hwords]

/-- No form is empty, so there is always a first step. -/
theorem readsBack_of_step (h : IsJson v)
    (hstep : ∀ level fuel o rest, Follows rest → (form level v).length ≤ fuel + 1 →
      ∃ o', readValue (fuel + 1) ⟨o, form level v ++ rest⟩ = .ok (v, ⟨o', rest⟩)) :
    ReadsBack v := by
  intro level fuel o rest hrest hfuel
  obtain ⟨c, cs, hform, -⟩ := exists_form_eq_cons h level
  have hpos : 0 < (form level v).length := by simp [hform]
  obtain ⟨fuel, rfl⟩ := Nat.exists_eq_add_one.2 (Nat.lt_of_lt_of_le hpos hfuel)
  exact hstep level fuel o rest hrest hfuel

theorem readsBack_int {n : Int}
    (hlimit : (Nat.toDigits 10 n.natAbs).length ≤ Number.digitLimit) : ReadsBack (.int n) := by
  refine readsBack_of_step (.int hlimit) fun level fuel o rest hrest _ => ?_
  obtain ⟨o', hnumber⟩ := readNumber_intText (o := o) hrest hlimit
  exact ⟨o', (readValue_intText n).trans hnumber⟩

theorem readsBack_text (s : String) : ReadsBack (.text s) := by
  refine readsBack_of_step (.text s) fun level fuel o rest _ _ => ?_
  obtain ⟨o', h⟩ := exists_readText_textForm s o rest
  refine ⟨o', ?_⟩
  rw [readValue]
  simp only [form, scalarForm, textForm, List.cons_append] at h ⊢
  rw [h]
  rfl

/-- A list is read back if its items are. -/
theorem readsBack_list {items : List Value} (hitems : ∀ w ∈ items, IsJson w)
    (hread : ∀ w ∈ items, ReadsBack w) : ReadsBack (.list items) := by
  refine readsBack_of_step (.list hitems) fun level fuel o rest _ hfuel => ?_
  cases items with
  | nil => exact ⟨o + 2, rfl⟩
  | cons v vs =>
      have hbreak := length_newLine_pos (level + 1)
      simp only [form, List.length_cons, List.length_append] at hfuel
      rw [form_list_append, readValue_list (hitems v (List.mem_cons_self ..))]
      exact readItems_itemsEnd (level + 1) level fuel (o + 1 + (newLine (level + 1)).length) []
        hitems hread (by omega)

/-- A mapping is read back if its values are, since no name stands in it twice. -/
theorem readsBack_ofFields {fields : List (String × Value)}
    (hnames : (fields.map Prod.fst).Nodup) (hfields : ∀ f ∈ fields, IsJson f.2)
    (hread : ∀ f ∈ fields, ReadsBack f.2) : ReadsBack (Value.ofFields fields) := by
  refine readsBack_of_step (.map hnames hfields) fun level fuel o rest _ hfuel => ?_
  cases fields with
  | nil => exact ⟨o + 2, rfl⟩
  | cons f fields =>
      have hbreak := length_newLine_pos (level + 1)
      simp only [Value.ofFields_eq, Value.entriesOf_cons, form, List.length_cons,
        List.length_append] at hfuel
      rw [form_ofFields_append, readValue_ofFields]
      exact readEntries_entriesEnd (level + 1) level fuel
        (o + 1 + (newLine (level + 1)).length) [] hnames hfields hread (by omega)

/-- A value is read back from its form. -/
theorem readsBack_of_isJson (h : IsJson v) : ReadsBack v := by
  induction h with
  | null => exact readsBack_of_step .null fun _ _ o _ _ _ => ⟨o + 4, rfl⟩
  | bool b =>
      cases b with
      | false => exact readsBack_of_step (.bool false) fun _ _ o _ _ _ => ⟨o + 5, rfl⟩
      | true => exact readsBack_of_step (.bool true) fun _ _ o _ _ _ => ⟨o + 4, rfl⟩
  | int hlimit => exact readsBack_int hlimit
  | text s => exact readsBack_text s
  | list hitems ih => exact readsBack_list hitems ih
  | map hnames hfields ih => exact readsBack_ofFields hnames hfields ih

/-! ## Documents -/

/-- A document that JSON has a form for is read back as it was written. -/
theorem read_write (h : IsJson v) : read (write v) = .ok v := by
  obtain ⟨c, cs, hform, hc, -, hfirst⟩ := exists_form_eq_cons h 0
  obtain ⟨o', hread⟩ := readsBack_of_isJson h 0 (2 * (write v).length + 2) 0 ['\n'] (.inr rfl)
    (by simp only [write, List.length_append]; omega)
  have hmark : (write v).head? ≠ some '\ufeff' := by
    rw [write, hform]
    simpa using hfirst
  have hstart : Place.skipSpace ⟨0, write v⟩ = ⟨0, form 0 v ++ ['\n']⟩ := by
    rw [write, hform, List.cons_append]
    exact skipSpace_of_not_space hc
  rw [read]
  simp only [if_neg hmark, hstart, hread, pure_eq_ok, ok_bind]
  rfl

end FolderTag.Document.Json

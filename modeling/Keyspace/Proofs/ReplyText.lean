import Mathlib
import Keyspace.Proofs.ErrorMarker
import Keyspace.Proofs.WellFormed

namespace Keyspace

open Store

namespace Reply

def OneLine (s : String) : Prop := '\n' ∉ s.toList

instance : DecidablePred OneLine := fun s => inferInstanceAs (Decidable ('\n' ∉ s.toList))

/-- What stands between the first quote of a line and its last letter. -/
def itemOf (line : List Char) : String :=
  String.ofList ((line.dropWhile (· ≠ '"')).tail.dropLast)

def itemsOf (cs : List Char) : List String := (cs.splitOn '\n').map itemOf

/-- The kind of failure that a message is for; the fifth letters of the messages differ. -/
def kindOf (message : String) : FailureKind :=
  match message.toList[4]? with
  | some 'G' => .wrongKind
  | some 'a' | some 'v' | some 'i' => .outOfRange
  | _ => .malformed

/-- The reply that a text is shown for, told by the first letters of the text. -/
def ofChars : List Char → Option Reply
  | [] => some (text "")
  | '#' :: cs => some (text (String.ofList ('#' :: cs)))
  | '"' :: cs => some (bulk (String.ofList cs.dropLast))
  | '1' :: cs => some (array (itemsOf ('1' :: cs)))
  | '(' :: 'n' :: _ => some nil
  | '(' :: 'e' :: 'm' :: _ => some (array [])
  | '(' :: 'i' :: cs => (String.ofList (cs.drop 8)).toInt?.map integer
  | '(' :: 'e' :: 'r' :: cs =>
    let message := String.ofList (cs.drop 5)
    some (error (kindOf message) message)
  | cs => some (status (String.ofList cs))

def ofText (s : String) : Option Reply := ofChars s.toList

theorem not_mem_toDigits {c : Char} (h : c.isDigit = false) (n : Nat) : c ∉ Nat.toDigits 10 n := by
  intro hc
  rw [Nat.isDigit_of_mem_toDigits (by decide) (by decide) hc] at h
  cases h

theorem mem_numbered {line : String} {n : Nat} {items : List String} (h : line ∈ numbered n items) :
    ∃ i : Nat, ∃ item ∈ items, line = toString i ++ ") " ++ quotes item := by
  induction items generalizing n with
  | nil => cases h
  | cons item items ih =>
    rcases List.mem_cons.1 h with rfl | h
    · exact ⟨n, item, List.mem_cons_self, rfl⟩
    · obtain ⟨i, x, hx, rfl⟩ := ih h
      exact ⟨i, x, List.mem_cons_of_mem item hx, rfl⟩

theorem toList_numberedLine (i : Nat) (item : String) :
    (toString i ++ ") " ++ quotes item).toList =
      Nat.toDigits 10 i ++ (')' :: ' ' :: '"' :: (item.toList ++ ['"'])) := by
  simp [quotes]

theorem itemOf_numberedLine (i : Nat) (item : String) :
    itemOf (toString i ++ ") " ++ quotes item).toList = item := by
  have hdigits : ∀ c ∈ Nat.toDigits 10 i, decide (c ≠ '"') = true := by
    intro c hc
    apply decide_eq_true
    rintro rfl
    exact not_mem_toDigits rfl i hc
  rw [itemOf, toList_numberedLine, List.dropWhile_append_of_pos hdigits]
  simp

theorem map_itemOf_numbered (n : Nat) (items : List String) :
    (numbered n items).map (fun line => itemOf line.toList) = items := by
  induction items generalizing n with
  | nil => rfl
  | cons item items ih => rw [numbered, List.map_cons, itemOf_numberedLine, ih]

theorem itemsOf_render {items : List String} (hne : items ≠ []) (h : ∀ x ∈ items, OneLine x) :
    itemsOf (String.intercalate "\n" (numbered 1 items)).toList = items := by
  have hlines : ∀ l ∈ (numbered 1 items).map String.toList, '\n' ∉ l := by
    intro l hl
    obtain ⟨line, hline, rfl⟩ := List.mem_map.1 hl
    obtain ⟨i, x, hx, rfl⟩ := mem_numbered hline
    have hdigits : '\n' ∉ Nat.toDigits 10 i := not_mem_toDigits rfl i
    have hitem : '\n' ∉ x.toList := h x hx
    rw [toList_numberedLine]
    simp [hdigits, hitem]
  have hsome : (numbered 1 items).map String.toList ≠ [] := by
    cases items with
    | nil => exact absurd rfl hne
    | cons => simp [numbered]
  have hbreak : "\n".toList = ['\n'] := rfl
  rw [itemsOf, String.toList_intercalate, hbreak, List.splitOn_intercalate '\n' hlines hsome,
    List.map_map]
  exact map_itemOf_numbered 1 items

theorem kindOf_append {s : String} (h : 4 < s.toList.length) (t : String) :
    kindOf (s ++ t) = kindOf s := by
  rw [kindOf, String.toList_append, List.getElem?_append_left h]
  rfl

/-- The name that a message echoes comes behind the letter that tells the kind. -/
theorem kindOf_message (f : Failure) : kindOf f.message = f.kind := by
  cases f with
  | unknownCommand name =>
    change kindOf ("ERR unknown command '" ++ Text.lower name ++ "'") = .malformed
    rw [String.append_assoc, kindOf_append (by decide)]
    rfl
  | wrongArity name =>
    change kindOf ("ERR wrong number of arguments for '" ++ Text.lower name ++ "' command") =
      .malformed
    rw [String.append_assoc, kindOf_append (by decide)]
    rfl
  | _ => rfl

theorem ofText_render_failure (f : Failure) : ofText f.reply.render = some f.reply := by
  have htext : ofText f.reply.render = some (error (kindOf f.message) f.message) := by
    simp [ofText, Failure.reply, render, errorMarker, ofChars]
  rw [htext, kindOf_message]
  rfl

theorem ofText_render_integer (n : Int) : ofText (integer n).render = some (integer n) := by
  simp [ofText, render, ofChars, Int.toInt?_repr]

theorem ofText_render_array {items : List String} (h : ∀ x ∈ items, OneLine x) :
    ofText (array items).render = some (array items) := by
  cases items with
  | nil => rfl
  | cons item items =>
    have hne : item :: items ≠ [] := List.cons_ne_nil item items
    have hitems := itemsOf_render hne h
    obtain ⟨cs, hcs⟩ := List.head?_eq_some_iff.1 (head?_render_array hne)
    have htext : ofText (array (item :: items)).render =
        some (array (itemsOf (array (item :: items)).render.toList)) := by
      rw [ofText, hcs]
      rfl
    rw [htext]
    exact congrArg (fun l => some (array l)) hitems

/-- An answer is told by its text, if no item that it lists has a line break. -/
theorem ofText_render {r : Reply} (h : r.IsAnswer)
    (hitems : ∀ items, r = array items → ∀ x ∈ items, OneLine x) : ofText r.render = some r := by
  cases r with
  | status message =>
    cases h
    rfl
  | integer n => exact ofText_render_integer n
  | bulk s => simp [ofText, render, quotes, ofChars]
  | nil => rfl
  | array items => exact ofText_render_array (hitems items rfl)
  | text message =>
    rcases h with rfl | hhead
    · rfl
    · obtain ⟨cs, hcs⟩ := List.head?_eq_some_iff.1 hhead
      have hmessage : String.ofList ('#' :: cs) = message := by rw [← hcs, String.ofList_toList]
      rw [ofText, render, hcs]
      exact congrArg (fun m => some (text m)) hmessage
  | error => exact h.elim

end Reply

open Reply

/-- No key and no text that is held, expired or not, has a line break. -/
def Store.OneLines (s : Store) : Prop :=
  s.All fun k e => OneLine k ∧ ∀ x ∈ e.payload.texts, OneLine x

instance (s : Store) : Decidable s.OneLines :=
  inferInstanceAs (Decidable (s.All fun k e => OneLine k ∧ ∀ x ∈ e.payload.texts, OneLine x))

theorem oneLine_of_solid {s : String} (h : Text.Solid s) : OneLine s := by
  intro hbreak
  cases h '\n' hbreak

theorem Store.WellFormed.oneLines {limits : Limits} {s : Store} (h : s.WellFormed limits) :
    s.OneLines := by
  intro k e hk
  have he : (k, e) ∈ s.entries := s.get?_eq_some_iff.1 hk
  exact ⟨oneLine_of_solid (h.key k e he).solid,
    fun x hx => oneLine_of_solid ((h.entry k e he).texts x hx).solid⟩

section Command

variable {limits : Limits} {line : String} {s : Store} {now : Int} {c : Command} {o : Outcome}

theorem mem_of_mem_slice {items : List String} {start stop : Int} {x : String}
    (h : x ∈ slice items start stop) : x ∈ items := by
  unfold slice at h
  dsimp only at h
  split at h
  · exact List.mem_of_mem_take (List.mem_of_mem_drop h)
  · cases h

theorem mem_of_run {items : List String} (h : c.run s now = .ok o) (hr : o.reply = .array items)
    {x : String} (hx : x ∈ items) : ∃ k e, s.get? k = some e ∧ (x = k ∨ x ∈ e.payload.texts) := by
  have hlive : ∀ {k : String}, (∃ a, lookup s k now = some a ∧ x ∈ a.payload.texts) →
      ∃ k e, s.get? k = some e ∧ (x = k ∨ x ∈ e.payload.texts) := by
    rintro k ⟨a, ha, hxa⟩
    exact ⟨k, a, (lookup_eq_some_iff.1 ha).1, Or.inr hxa⟩
  cases c with
  | keys pattern =>
    cases h
    cases hr
    obtain ⟨⟨k, e⟩, he, rfl⟩ := List.mem_map.1 (List.mem_filter.1 hx).1
    exact ⟨k, e, s.get?_eq_some_iff.2 (List.mem_filter.1 he).1, Or.inl rfl⟩
  | lrange key start stop =>
    obtain ⟨held, hheld, rfl⟩ := exists_of_map_eq_ok h
    cases hr
    exact hlive (texts_of_held list?_eq_some rfl hheld (mem_of_mem_slice hx))
  | smembers key =>
    obtain ⟨held, hheld, rfl⟩ := exists_of_map_eq_ok h
    cases hr
    exact hlive (texts_of_held set?_eq_some rfl hheld hx)
  | hgetall key =>
    obtain ⟨held, hheld, rfl⟩ := exists_of_map_eq_ok h
    cases hr
    exact hlive (texts_of_held hash?_eq_some rfl hheld hx)
  -- the others list nothing
  | set | existing | info =>
    cases h
    cases hr
  | del =>
    cases h
    unfold Store.del at hr
    split at hr <;> cases hr
  | flushall =>
    cases h
    unfold Store.flush at hr
    split at hr <;> cases hr
  | expire =>
    cases h
    unfold Store.expire at hr
    split at hr
    · cases hr
    · split at hr <;> cases hr
  | ttl =>
    cases h
    unfold Store.ttl at hr
    split at hr
    · cases hr
    · split at hr <;> cases hr
  | persist =>
    cases h
    unfold Store.persist at hr
    split at hr
    · cases hr
    · split at hr <;> cases hr
  | lpush | rpush | sismember | hset =>
    obtain ⟨held, -, rfl⟩ := exists_of_map_eq_ok h
    cases hr
  | get | lpop | sadd | hget =>
    obtain ⟨held, -, rfl⟩ := exists_of_map_eq_ok h
    split at hr <;> cases hr

/-- The reply to a line can be read off the text that it is shown as. -/
theorem ofText_of_execute (hs : s.OneLines) (h : execute limits line s now = .ok o) :
    ofText o.reply.render = some o.reply := by
  rcases outcome_cases h with ⟨why, -, rfl⟩ | ⟨c, -, rfl⟩
  · exact ofText_render_failure why
  · unfold Command.outcome
    cases hr : c.run s now with
    | error why => exact ofText_render_failure why
    | ok o =>
      apply ofText_render (isAnswer_of_run hr)
      intro items hitems x hx
      obtain ⟨k, e, hk, hxe⟩ := mem_of_run hr hitems hx
      obtain ⟨hkey, htexts⟩ := hs k e hk
      rcases hxe with rfl | hxe
      · exact hkey
      · exact htexts x hxe

end Command

/-- Over stores without line breaks, and so over all reachable ones, replies that are shown as the
same text are the same reply. -/
theorem text_determines_reply {limits limits' : Limits} {line line' : String} {s s' : Store}
    {now now' : Int} {o o' : Outcome} (hs : s.OneLines) (hs' : s'.OneLines)
    (h : execute limits line s now = .ok o) (h' : execute limits' line' s' now' = .ok o') :
    (o.reply.render = o'.reply.render → o.reply = o'.reply) ∧
      ofText o.reply.render = some o.reply ∧
      ∀ (w : Sweeper) (es : List Event),
        (Host.after { limits := limits, sweeper := w } es).store.OneLines := by
  have hread := ofText_of_execute hs h
  have hread' := ofText_of_execute hs' h'
  refine ⟨?_, hread, fun w es => (reachable_wellFormed limits w es).oneLines⟩
  intro htext
  rw [← htext, hread] at hread'
  exact Option.some.inj hread'

/-- A list and a set of the same items, which look like lines and like other replies. -/
def lookalikes : Store :=
  ⟨[("l", ⟨.list ["\"", "(nil)", "1) \"x\""], none⟩),
    ("s", ⟨.set ⟨["\"", "(nil)", "1) \"x\""], by decide⟩, none⟩)], by decide⟩

theorem text_determines_reply_lookalikes :
    ∃ o o', execute {} "LRANGE l 0 -1" lookalikes 0 = .ok o ∧
      execute {} "SMEMBERS s" lookalikes 5 = .ok o' ∧ o.reply = o'.reply ∧
        ofText "1) \"\"\"\n2) \"(nil)\"\n3) \"1) \"x\"\"" = some o.reply := by
  have hlines : lookalikes.OneLines := by decide
  have hlist : execute {} "LRANGE l 0 -1" lookalikes 0 =
      .ok (.unchanged (.array ["\"", "(nil)", "1) \"x\""])) := rfl
  have hset : execute {} "SMEMBERS s" lookalikes 5 =
      .ok (.unchanged (.array ["\"", "(nil)", "1) \"x\""])) := rfl
  obtain ⟨hequal, hread, -⟩ := text_determines_reply hlines hlines hlist hset
  exact ⟨_, _, hlist, hset, hequal rfl, hread⟩

end Keyspace

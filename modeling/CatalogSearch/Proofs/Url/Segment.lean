import CatalogSearch.Url.Parser

/-!
# What a text becomes as a segment of a path

A text that is appended to the path of a URL is percent-encoded, and decoding gives the text back
(`Percent.decode?_encode`). Still not every text becomes the segment that it was meant to be: tabs
and line breaks leave no trace, and dot segments move within the path. `Url.IsSegment` are the texts
that do. `Url.extend?_eq_some` says what three texts come to behind a path, the last of them any text
(`Url.landing`), and `Url.landing_eq_iff` that this one is there exactly when it can be a segment.
-/

namespace CatalogSearch

namespace Percent

/-! ## Decoding what was encoded -/

/-- A set can be read back if it has the mark of encoded bytes and all bytes beyond ASCII. -/
def EncodeSet.Readable (set : EncodeSet) : Prop :=
  ∀ b : UInt8, set b = false → b.toNat < 0x80 ∧ b.toNat ≠ '%'.toNat

/-- What is encoded in a segment can be read back. -/
theorem segmentSet_readable : segmentSet.Readable := by
  intro b h
  simp only [segmentSet, pathSet, fragmentSet, controls, isOneOf, Bool.or_eq_false_iff,
    decide_eq_false_iff_not, UInt8.not_le] at h
  obtain ⟨⟨⟨⟨-, hlow⟩, -⟩, -⟩, hmark⟩ := h
  have hlow := UInt8.lt_iff_toNat_lt.1 hlow
  refine ⟨Nat.lt_trans hlow (by decide), ?_⟩
  intro heq
  simp [heq] at hmark

/-- What is encoded in a segment where a backslash is a slash can be read back. -/
theorem specialSegmentSet_readable : specialSegmentSet.Readable := by
  intro b h
  simp only [specialSegmentSet, Bool.or_eq_false_iff] at h
  exact segmentSet_readable b h.1

/-- The code of an ASCII character is the number that it is made from. -/
theorem toNat_ofNat_ascii : ∀ n < 0x80, (Char.ofNat n).toNat = n := by decide

/-- The bytes of an ASCII character are its code. -/
theorem utf8EncodeChar_ofNat {n : Nat} (h : n < 0x80) :
    String.utf8EncodeChar (Char.ofNat n) = [UInt8.ofNat n] := by
  have hcode : (Char.ofNat n).val.toNat = n := toNat_ofNat_ascii n h
  rw [String.utf8EncodeChar, hcode, if_pos (by omega)]

/-- A byte is read from its two digits. -/
theorem byte?_upperHexDigit (b : UInt8) :
    byte? (Text.upperHexDigit (b.toNat / 16)) (Text.upperHexDigit (b.toNat % 16)) = some b := by
  have hhigh : b.toNat / 16 < 16 := by have := b.toNat_lt; omega
  have hlow : b.toNat % 16 < 16 := by omega
  have hsum : b.toNat / 16 * 16 + b.toNat % 16 = b.toNat := by omega
  simp only [byte?, Text.hexValue?_upperHexDigit _ hhigh, Text.hexValue?_upperHexDigit _ hlow]
  show some (UInt8.ofNat (b.toNat / 16 * 16 + b.toNat % 16)) = some b
  rw [hsum, UInt8.ofNat_toNat]

/-- Any other character than the mark stands for its own bytes. -/
theorem decodeBytes_cons_of_ne {c : Char} (h : c ≠ '%') (rest : List Char) :
    decodeBytes (c :: rest) = String.utf8EncodeChar c ++ decodeBytes rest := by
  rw [decodeBytes]
  intro high low others hmark
  cases hmark
  exact absurd rfl h

/-- A byte is decoded from its encoded form, whatever stands behind it. -/
theorem decodeBytes_encodeByte {set : EncodeSet} (hset : set.Readable) (b : UInt8)
    (rest : List Char) : decodeBytes (encodeByte set b ++ rest) = b :: decodeBytes rest := by
  unfold encodeByte
  split
  · show decodeBytes ('%' :: _ :: _ :: rest) = b :: decodeBytes rest
    rw [decodeBytes, byte?_upperHexDigit]
  · rename_i hkept
    obtain ⟨hascii, hmark⟩ := hset b (by simpa using hkept)
    have hne : Char.ofNat b.toNat ≠ '%' := by
      intro heq
      exact hmark (by rw [← heq, toNat_ofNat_ascii _ hascii])
    show decodeBytes (Char.ofNat b.toNat :: rest) = b :: decodeBytes rest
    rw [decodeBytes_cons_of_ne hne, utf8EncodeChar_ofNat hascii, UInt8.ofNat_toNat]
    rfl

/-- Bytes are decoded one by one. -/
theorem decodeBytes_flatMap_encodeByte {set : EncodeSet} (hset : set.Readable)
    (bytes : List UInt8) : decodeBytes (bytes.flatMap (encodeByte set)) = bytes := by
  induction bytes with
  | nil => rfl
  | cons b rest ih => rw [List.flatMap_cons, decodeBytes_encodeByte hset, ih]

/-- A text comes back from its encoded form. -/
theorem decode?_encode {set : EncodeSet} (hset : set.Readable) (text : List Char) :
    decode? (encode set text) = some text := by
  have hbytes : decodeBytes (encode set text) = text.flatMap String.utf8EncodeChar := by
    rw [encode, ← List.flatMap_assoc, decodeBytes_flatMap_encodeByte hset]
  have hutf8 : (⟨(text.flatMap String.utf8EncodeChar).toArray⟩ : ByteArray) =
      (String.ofList text).toByteArray := by
    apply ByteArray.ext
    rw [String.toByteArray_ofList]
    exact List.data_toByteArray.symm
  rw [decode?, hbytes, hutf8, String.fromUTF8?, dif_pos (String.ofList text).isValidUTF8]
  show some (String.ofList text).toList = some text
  rw [String.toList_ofList]

end Percent

namespace Url

/-! ## A text as one segment -/

/-- The text that a segment of a path stands for, if its bytes are a text. -/
def segmentText? (segment : String) : Option String :=
  (Percent.decode? segment.toList).map String.ofList

/-- A text without the characters that leave no trace in a URL. -/
def visible (text : String) : String := String.ofList (text.toList.filter fun c => !isIgnored c)

/-- A text that can be a segment of a path: it is no dot segment, and all of it is visible. -/
structure IsSegment (text : String) : Prop where
  not_dot : text ≠ "."
  not_dots : text ≠ ".."
  visible_eq : visible text = text

/-- A text is visible if none of its characters are ignored. -/
theorem visible_eq_self_iff {text : String} :
    visible text = text ↔ ∀ c ∈ text.toList, isIgnored c = false := by
  rw [← String.toList_inj, visible, String.toList_ofList, List.filter_eq_self]
  simp

/-- Nothing more vanishes from what is visible. -/
@[simp] theorem visible_visible (text : String) : visible (visible text) = visible text := by
  rw [visible, visible, String.toList_ofList, List.filter_filter]
  simp

/-- Only the visible part of a text is encoded. -/
theorem encodeSegment_visible (special : Bool) (text : String) :
    encodeSegment special (visible text) = encodeSegment special text := by
  simp only [encodeSegment, visible, String.toList_ofList, List.filter_filter, Bool.and_self]

/-- What a text becomes as a segment stands for its visible part. -/
theorem segmentText?_encodeSegment (special : Bool) (text : String) :
    segmentText? (encodeSegment special text) = some (visible text) := by
  cases special with
  | true =>
    show (Percent.decode? (String.ofList (Percent.encode _ _)).toList).map _ = _
    rw [String.toList_ofList, if_pos rfl, Percent.decode?_encode Percent.specialSegmentSet_readable]
    rfl
  | false =>
    show (Percent.decode? (String.ofList (Percent.encode _ _)).toList).map _ = _
    rw [String.toList_ofList, if_neg Bool.false_ne_true,
      Percent.decode?_encode Percent.segmentSet_readable]
    rfl

/-- Two texts become the same segment when their visible parts are the same. -/
theorem encodeSegment_inj {special : Bool} {text other : String} :
    encodeSegment special text = encodeSegment special other ↔ visible text = visible other := by
  constructor
  · intro h
    have htexts := congrArg segmentText? h
    rw [segmentText?_encodeSegment, segmentText?_encodeSegment] at htexts
    exact Option.some.inj htexts
  · intro h
    rw [← encodeSegment_visible, h, encodeSegment_visible]

/-- Visible texts come back from the segments that they become. -/
theorem map_segmentText?_encodeSegment {special : Bool} {texts : List String}
    (h : ∀ text ∈ texts, visible text = text) :
    (texts.map (encodeSegment special)).map segmentText? = texts.map some := by
  rw [List.map_map, List.map_inj_left]
  intro text htext
  rw [Function.comp_apply, segmentText?_encodeSegment, h text htext]

/-! ## Appending segments to a path -/

/-- The segments that others are appended to: none, if an empty one is the only one. -/
def rooted (segments : List String) : List String := if segments = [""] then [] else segments

/-- Segments without an empty last one. -/
def withoutEmptyLast (segments : List String) : List String :=
  if segments.getLast? = some "" then segments.dropLast else segments

/-- All segments of a base but an empty last one stay in front of those that are appended, except
that of two empty ones none is left. -/
theorem rooted_dropEmptyLast_eq_iff {base : List String} :
    rooted (dropEmptyLast base) = withoutEmptyLast base ↔ base ≠ ["", ""] := by
  constructor
  · rintro h rfl
    revert h
    decide
  · intro h
    by_cases hlast : base.getLast? = some ""
    · obtain ⟨before, rfl⟩ := List.getLast?_eq_some_iff.1 hlast
      cases before with
      | nil => decide
      | cons first rest =>
        have hlong : 1 < (first :: rest ++ [""]).length := by simp
        have hroot : first :: rest ≠ [""] := fun heq => h (by rw [heq]; rfl)
        rw [dropEmptyLast, if_pos ⟨hlong, hlast⟩, withoutEmptyLast, if_pos hlast,
          List.dropLast_concat, rooted, if_neg hroot]
    · have hroot : base ≠ [""] := fun heq => hlast (by rw [heq]; rfl)
      rw [dropEmptyLast, if_neg (fun hboth => hlast hboth.2), withoutEmptyLast, if_neg hlast,
        rooted, if_neg hroot]

/-- What is its own encoded form is what only a text becomes whose visible part it is. -/
theorem encodeSegment_eq_iff {special : Bool} {plain : String}
    (hplain : encodeSegment special plain = plain) (hvisible : visible plain = plain)
    (text : String) : encodeSegment special text = plain ↔ visible text = plain := by
  constructor
  · intro h
    have hsame := encodeSegment_inj.1 (h.trans hplain.symm)
    rw [hsame, hvisible]
  · intro h
    rw [← encodeSegment_visible, h, hplain]

/-- A text becomes a dot segment if its visible part is one. -/
theorem encodeSegment_eq_dot_iff (special : Bool) (text : String) :
    (encodeSegment special text = "." ↔ visible text = ".") ∧
      (encodeSegment special text = ".." ↔ visible text = "..") :=
  ⟨encodeSegment_eq_iff (by cases special <;> decide) (by decide) text,
    encodeSegment_eq_iff (by cases special <;> decide) (by decide) text⟩

/-- A text that can be a segment is appended as one. -/
theorem pushSegment_of_isSegment {special : Bool} {segments : List String} {text : String}
    (h : IsSegment text) :
    pushSegment special segments text = rooted segments ++ [encodeSegment special text] := by
  obtain ⟨hdot, hdots⟩ := encodeSegment_eq_dot_iff special text
  rw [h.visible_eq] at hdot hdots
  unfold pushSegment
  simp only [if_neg (not_or.2 ⟨h.not_dot, h.not_dots⟩), hdot, hdots, if_neg h.not_dot,
    if_neg h.not_dots]
  rfl

/-- What stands at the end of a path after a text is appended to one that ends with a segment: a
dot segment leaves it alone; a text that looks like a dot segment ends the path with an empty
segment, next to the segment before or in its place. -/
def landing (before text : String) : List String :=
  if text = "." ∨ text = ".." then [before]
  else if visible text = "." then [before, ""]
  else if visible text = ".." then [""]
  else [before, visible text]

/-- A text is found behind the segment before exactly when it can be a segment. -/
theorem landing_eq_iff {before text : String} : landing before text = [before, text] ↔
    IsSegment text := by
  unfold landing
  constructor
  · intro h
    split at h
    · simp at h
    · rename_i hnone
      split at h
      · rename_i hdot
        obtain rfl : "" = text := by simpa using h
        exact absurd hdot (by decide)
      · split at h
        · simp at h
        · exact ⟨fun heq => hnone (.inl heq), fun heq => hnone (.inr heq), by simpa using h⟩
  · intro h
    rw [if_neg (not_or.2 ⟨h.not_dot, h.not_dots⟩), h.visible_eq, if_neg h.not_dot,
      if_neg h.not_dots]

/-- At most two segments stand at the end of the path. -/
theorem length_landing_le (before text : String) : (landing before text).length ≤ 2 := by
  unfold landing
  repeat' split
  all_goals simp

/-- All that stands at the end of the path is visible. -/
theorem visible_of_mem_landing {before text segment : String} (hbefore : visible before = before)
    (h : segment ∈ landing before text) : visible segment = segment := by
  unfold landing at h
  split at h
  · simp_all
  · split at h
    · simp only [List.mem_cons, List.not_mem_nil, or_false] at h
      rcases h with rfl | rfl
      · exact hbefore
      · decide
    · split at h
      · simp only [List.mem_cons, List.not_mem_nil, or_false] at h
        subst h
        decide
      · simp only [List.mem_cons, List.not_mem_nil, or_false] at h
        rcases h with rfl | rfl
        · exact hbefore
        · exact visible_visible text

/-- A text that is appended behind a segment, which does not start like a drive, changes the end of
the path only. -/
theorem pushSegment_concat {special : Bool} {segments : List String} {before : String}
    (hsegments : segments ≠ []) (hdrive : startsWithDrive (encodeSegment special before) = false)
    (text : String) :
    pushSegment special (segments ++ [encodeSegment special before]) text =
      segments ++ (landing before text).map (encodeSegment special) := by
  have hroot : segments ++ [encodeSegment special before] ≠ [""] := by
    intro heq
    exact hsegments (List.append_eq_singleton_iff.1 heq |>.resolve_right (by simp)).1
  have hback : goBack (segments ++ [encodeSegment special before]) = segments := by
    rw [goBack, List.getLast?_concat, Option.any_some, hdrive, List.dropLast_concat]
    rfl
  have hempty : encodeSegment special "" = "" := by cases special <;> decide
  obtain ⟨hdot, hdots⟩ := encodeSegment_eq_dot_iff special text
  unfold pushSegment landing
  simp only [if_neg hroot, hdot, hdots]
  split
  · rfl
  · split
    · rw [List.map_cons, List.map_cons, List.map_nil, hempty, List.append_assoc]
      rfl
    · split
      · rw [hback, List.map_cons, List.map_nil, hempty]
      · rw [List.map_cons, List.map_cons, List.map_nil, encodeSegment_visible, List.append_assoc]
        rfl

/-! ## The URL of a path -/

/-- What the segments of a path stand for. -/
def pathTexts (url : Url) : List (Option String) :=
  match url.path with
  | .segments segments => segments.map segmentText?
  | .rootless _ => []

/-- The URL with another path. -/
def withPath (url : Url) (path : UrlPath) : Url := { url with path := path }

/-- Two texts that can be segments, and any text behind them, come to stand behind the path of a
URL. -/
theorem extend?_eq_some {url : Url} {base : List String} (hpath : url.path = .segments base)
    {first second : String} (hfirst : IsSegment first) (hsecond : IsSegment second)
    (hdrive : startsWithDrive (encodeSegment url.isSpecial second) = false)
    (hempty : first ≠ "") (last : String) :
    url.extend? [first, second, last] =
      some (url.withPath (.segments (rooted (dropEmptyLast base) ++
        (first :: landing second last).map (encodeSegment url.isSpecial)))) := by
  have hroot : rooted (rooted (dropEmptyLast base) ++ [encodeSegment url.isSpecial first]) =
      rooted (dropEmptyLast base) ++ [encodeSegment url.isSpecial first] := by
    refine if_neg fun heq => ?_
    have hlast := congrArg List.getLast? heq
    rw [List.getLast?_concat] at hlast
    have hvisible := congrArg segmentText? (Option.some.inj hlast)
    rw [segmentText?_encodeSegment, hfirst.visible_eq] at hvisible
    exact hempty (Option.some.inj hvisible)
  rw [extend?, hpath]
  simp only [List.foldl_cons, List.foldl_nil, pushSegment_of_isSegment hfirst,
    pushSegment_of_isSegment hsecond, hroot]
  rw [pushSegment_concat (by simp) hdrive, List.append_assoc]
  rfl

/-- What stands behind the path of a base are these three texts exactly when the last of them can
be a segment, and the base does not lose one of two empty ones. -/
theorem landing_behind_base_iff {base : List String} {first second last : String} :
    (rooted (dropEmptyLast base)).map segmentText? ++ (first :: landing second last).map some =
        (withoutEmptyLast base).map segmentText? ++ [some first, some second, some last] ↔
      base ≠ ["", ""] ∧ IsSegment last := by
  by_cases hbase : base = ["", ""]
  · subst hbase
    have hleft : rooted (dropEmptyLast ["", ""]) = [] := by decide
    have hright : withoutEmptyLast ["", ""] = [""] := by decide
    rw [hleft, hright]
    refine iff_of_false (fun heq => ?_) (fun hboth => hboth.1 rfl)
    -- there is one segment too few in front of what stands at the end
    have hlength := congrArg List.length heq
    have hshort := length_landing_le second last
    simp only [List.map_nil, List.nil_append, List.length_map, List.length_cons,
      List.length_append, List.length_nil] at hlength
    omega
  · rw [rooted_dropEmptyLast_eq_iff.2 hbase, List.append_cancel_left_eq, ← @landing_eq_iff second,
      show [some first, some second, some last] = [first, second, last].map some from rfl,
      List.map_inj_right (fun _ _ => Option.some.inj), List.cons.injEq]
    simp [hbase]

/-- A path after an authority has segments. -/
theorem exists_segments_of_readNetwork? {scheme : String} {followed : Bool} {text : List Char}
    {hierarchy : Hierarchy} (h : readNetwork? scheme followed text = some hierarchy) :
    ∃ base, hierarchy.path = .segments base := by
  simp only [readNetwork?, Option.bind_eq_bind, Option.bind_eq_some_iff, pure] at h
  obtain ⟨authority, -, h⟩ := h
  cases h
  simp only [Authority.withPath, readPath]
  split
  · exact ⟨_, rfl⟩
  · exact ⟨_, rfl⟩

/-- A URL of the web has a path of segments. -/
theorem exists_segments_of_parse? {written : String} {url : Url} (h : parse? written = some url)
    (hscheme : url.scheme = "http" ∨ url.scheme = "https") :
    ∃ base, url.path = .segments base := by
  simp only [parse?, Option.bind_eq_bind, Option.bind_eq_some_iff, pure] at h
  obtain ⟨⟨scheme, rest⟩, -, hierarchy, hhierarchy, h⟩ := h
  cases h
  show ∃ base, hierarchy.path = .segments base
  have hscheme : scheme = "http" ∨ scheme = "https" := hscheme
  have hfile : scheme ≠ "file" := by
    rcases hscheme with rfl | rfl <;> decide
  have hspecial : specialSchemes.contains scheme = true := by
    rcases hscheme with rfl | rfl <;> decide
  simp only [readHierarchy?, if_neg hfile, if_pos hspecial] at hhierarchy
  exact exists_segments_of_readNetwork? hhierarchy

/-- The last of several segments stands between two texts that do not depend on it. -/
theorem exists_text_withPath_concat (url : Url) {before : List String} (hbefore : before ≠ []) :
    ∃ front behind, ∀ last : String,
      (url.withPath (.segments (before ++ [last]))).text = front ++ last ++ behind := by
  let mark := if url.host.isNone && before.head? = some "" then "/." else ""
  refine ⟨url.scheme ++ ":" ++ url.authorityText ++ mark ++ segmentsText before ++ "/",
    url.queryText ++ url.fragmentText, fun last => ?_⟩
  have hlong : decide (1 < (before ++ [last]).length) = true := by
    have := List.length_pos_iff.2 hbefore
    simp only [List.length_append, List.length_singleton, decide_eq_true_eq]
    omega
  have hhead : (before ++ [last]).head? = before.head? := by
    cases before with
    | nil => exact absurd rfl hbefore
    | cons first rest => rfl
  have hpath : (url.withPath (.segments (before ++ [last]))).pathText =
      mark ++ (segmentsText before ++ ("/" ++ last)) := by
    simp only [withPath, pathText, hlong, hhead, Bool.and_true, mark, segmentsText]
    simp [String.join_append]
  show url.scheme ++ ":" ++ url.authorityText ++
    (url.withPath (.segments (before ++ [last]))).pathText ++ url.queryText ++ url.fragmentText = _
  rw [hpath]
  simp only [String.append_assoc]

/-- Paths that are the same but for the last segment have the same text only if they have the same
last one too. -/
theorem text_withPath_inj {url : Url} {before : List String} (hbefore : before ≠ [])
    {last other : String}
    (h : (url.withPath (.segments (before ++ [last]))).text =
      (url.withPath (.segments (before ++ [other]))).text) : last = other := by
  obtain ⟨front, behind, htext⟩ := exists_text_withPath_concat url hbefore
  rw [htext, htext, String.append_left_inj, String.append_right_inj] at h
  exact h

end Url

end CatalogSearch

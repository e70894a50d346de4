import HttpRouting.Http.Environ
import HttpRouting.Proofs.Http.Headers
import HttpRouting.Proofs.Pairs
import HttpRouting.Proofs.Text.Ascii

/-!
# Headers of environments

A variable of capital letters, digits and low lines can be told from the name
of the header that it gives, in whatever case that name is written.  So headers
are read back from a request as the environment had them, in any order, if
there is a request: a content length beyond every stream prevents it.
-/

namespace HttpRouting.Http.Environ

open Text (IsRaised)

/-! ## Names -/

def IsVariableName (s : List Char) : Prop :=
  ∀ c ∈ s, (c.isUpper || c.isDigit || c == '_') = true

instance (s : List Char) : Decidable (IsVariableName s) := decidable_of_iff _ List.all_eq_true

def hyphenated (key : List Char) : List Char := key.map fun c => if c == '_' then '-' else c

variable {key key' : List Char}

theorem isRaised_of_mem_hyphenated (h : IsVariableName key) : ∀ c ∈ hyphenated key, IsRaised c := by
  intro c hc
  obtain ⟨d, hd, rfl⟩ := List.mem_map.mp hc
  have hvariable := h d hd
  split
  next => exact Text.isRaised_of_ascii (by decide) rfl
  next hline =>
    have hplain : d.isUpper = true ∨ d.isDigit = true := by simpa [hline] using hvariable
    have halphanum : d.isAlphanum = true :=
      Text.isAlphanum_iff.mpr (hplain.imp_left .inl)
    refine Text.isRaised_of_ascii (Text.toNat_lt_of_isAlphanum halphanum) ?_
    rw [Text.isUpper_iff, Text.isDigit_iff] at hplain
    rw [Bool.eq_false_iff, ne_eq, Text.isLower_iff]
    omega

theorem lower_headerName (h : IsVariableName key) :
    Text.lower (headerName key) = Text.lower (.ofList (hyphenated key)) := by
  rw [headerName, Text.lower, Text.lower, String.toList_ofList, String.toList_ofList]
  exact congrArg String.ofList (Text.lowerChars_titleChars (isRaised_of_mem_hyphenated h))

theorem eq_of_lower_hyphenated_eq (h : IsVariableName key) (h' : IsVariableName key')
    (heq : Text.lower (.ofList (hyphenated key)) = Text.lower (.ofList (hyphenated key'))) :
    key = key' := by
  have hback {key : List Char} (h : IsVariableName key) :
      (hyphenated key).map (fun c => if c == '-' then '_' else c) = key := by
    rw [hyphenated, List.map_map]
    refine (List.map_congr_left fun c hc => ?_).trans (List.map_id key)
    have hne : c ≠ '-' := by
      rintro rfl
      exact absurd (h '-' hc) (by decide)
    by_cases hline : c = '_' <;> simp [hline, hne]
  have hchars : hyphenated key = hyphenated key' := by
    refine Text.eq_of_lowerChars_eq (isRaised_of_mem_hyphenated h) (isRaised_of_mem_hyphenated h') ?_
    simpa [Text.lower] using congrArg String.toList heq
  rw [← hback h, hchars, hback h']

/-! ## Variables that give headers -/

/-- The variables that give headers, each with the part of its name that the header has. -/
inductive Gives : String × String → List Char → Prop
  | field (key : List Char) (value : String) :
      Gives (.ofList (headerStem.toList ++ key), value) key
  | content {name value : String} {key : List Char} :
      isContentVariable name = true → value ≠ "" → key = name.toList → Gives (name, value) key

theorem eq_or_eq_of_isContentVariable {name : String} (h : isContentVariable name = true) :
    name = "CONTENT_TYPE" ∨ name = "CONTENT_LENGTH" := by
  simpa [isContentVariable] using h

theorem header?_eq_some_iff {entry header : String × String} :
    header? entry = some header ↔ ∃ key, Gives entry key ∧ header = (headerName key, entry.2) := by
  obtain ⟨name, value⟩ := entry
  rw [header?]
  constructor
  · intro h
    split at h
    next rest hstem =>
      have hname : name = .ofList (headerStem.toList ++ rest) := by
        rw [List.isPrefixOf?_eq_some_iff_append_eq.mp hstem, String.ofList_toList]
      subst hname
      exact ⟨rest, .field rest value, (Option.some.inj h).symm⟩
    next =>
      split at h
      next hcontent =>
        rw [Bool.and_eq_true, Bool.not_eq_true', String.isEmpty_eq_false_iff] at hcontent
        exact ⟨_, .content hcontent.1 hcontent.2 rfl, (Option.some.inj h).symm⟩
      next => simp at h
  · rintro ⟨key, hgives, rfl⟩
    cases hgives with
    | field =>
        have hstem : headerStem.toList.isPrefixOf? (headerStem.toList ++ key) = some key :=
          List.isPrefixOf?_eq_some_iff_append_eq.mpr rfl
        simp [hstem]
    | content hcontent hvalue hkey =>
        have hnone : headerStem.toList.isPrefixOf? name.toList = none := by
          rcases eq_or_eq_of_isContentVariable hcontent with rfl | rfl <;> decide
        simp [hnone, hcontent, hvalue, hkey]

/--
Every variable is bound once and has a name of its own, neither content
variable comes a second time as a header, and there is a stream if a content
length announces input.
-/
structure IsRegular (e : Environ) : Prop where
  nodup : e.bindings.keys.Nodup
  isVariableName : ∀ name ∈ e.bindings.keys, IsVariableName name.toList
  noContentType : "HTTP_CONTENT_TYPE" ∉ e.bindings.keys
  noContentLength : "HTTP_CONTENT_LENGTH" ∉ e.bindings.keys
  input : 0 < e.contentLength → e.input.isSome = true

namespace IsRegular

variable {e : Environ} (h : e.IsRegular) {entry other : String × String}

include h

theorem isVariableName_of_gives (hentry : entry ∈ e.bindings.entries) (hgives : Gives entry key) :
    IsVariableName key := by
  have hname := h.isVariableName entry.1 (List.mem_map_of_mem hentry)
  cases hgives with
  | field => exact fun c hc => hname c (by simp [hc])
  | content _ _ hkey => exact hkey ▸ hname

theorem field_not_mem {name : String} (hcontent : isContentVariable name = true) (value : String) :
    (String.ofList (headerStem.toList ++ name.toList), value) ∉ e.bindings.entries := by
  intro hmem
  have hkey := List.mem_map_of_mem (f := Prod.fst) hmem
  rcases eq_or_eq_of_isContentVariable hcontent with rfl | rfl
  · exact h.noContentType hkey
  · exact h.noContentLength hkey

theorem eq_of_gives (hentry : entry ∈ e.bindings.entries) (hother : other ∈ e.bindings.entries)
    (hgives : Gives entry key) (hgives' : Gives other key) : entry = other := by
  have hname : entry.1 = other.1 := by
    cases hgives with
    | field =>
        cases hgives' with
        | field => rfl
        | content hcontent _ hkey => exact absurd hentry (hkey ▸ h.field_not_mem hcontent _)
    | content hcontent _ hkey =>
        cases hgives' with
        | field => exact absurd hother (hkey ▸ h.field_not_mem hcontent _)
        | content _ _ hkey' => exact String.toList_inj.mp (hkey.symm.trans hkey')
  have hfound := Pairs.valueOf?_of_mem h.nodup hother
  rw [← hname, Pairs.valueOf?_of_mem h.nodup hentry, Option.some.injEq] at hfound
  exact Prod.ext hname hfound

theorem headers_entries : e.headers.entries = e.bindings.entries.filterMap header? := by
  refine Pairs.ofList_entries ?_
  have hentries : e.bindings.entries.Pairwise fun first second => first.1 ≠ second.1 :=
    List.pairwise_map.mp h.nodup
  rw [List.Nodup, List.pairwise_map, List.pairwise_filterMap]
  refine hentries.imp_of_mem fun {first second} hfirst hsecond hne => ?_
  intro header hheader header' hheader' heq
  obtain ⟨key, hgives, rfl⟩ := header?_eq_some_iff.mp hheader
  obtain ⟨key', hgives', rfl⟩ := header?_eq_some_iff.mp hheader'
  have hkey := h.isVariableName_of_gives hfirst hgives
  have hkey' := h.isVariableName_of_gives hsecond hgives'
  have hlower : Text.lower (headerName key) = Text.lower (headerName key') := congrArg Text.lower heq
  rw [lower_headerName hkey, lower_headerName hkey'] at hlower
  obtain rfl := eq_of_lower_hyphenated_eq hkey hkey' hlower
  exact hne (congrArg Prod.fst (h.eq_of_gives hfirst hsecond hgives hgives'))

theorem mem_headers_iff {header : String × String} :
    header ∈ e.headers.entries ↔
      ∃ entry ∈ e.bindings.entries, ∃ key, Gives entry key ∧ header = (headerName key, entry.2) := by
  simp only [h.headers_entries, List.mem_filterMap, header?_eq_some_iff]

theorem findHeader?_of_gives {name : String} (hentry : entry ∈ e.bindings.entries)
    (hgives : Gives entry key) (hname : Text.lower name = Text.lower (.ofList (hyphenated key))) :
    findHeader? e.headers name = some entry.2 := by
  have hkey := h.isVariableName_of_gives hentry hgives
  have hmem : (headerName key, entry.2) ∈ e.headers.entries :=
    h.mem_headers_iff.mpr ⟨entry, hentry, key, hgives, rfl⟩
  refine findHeader?_of_mem hmem ?_ fun header hheader hsame => ?_
  · rw [hname, lower_headerName hkey]
  · obtain ⟨other, hother, key', hgives', rfl⟩ := h.mem_headers_iff.mp hheader
    have hkey' := h.isVariableName_of_gives hother hgives'
    rw [lower_headerName hkey', hname] at hsame
    obtain rfl := eq_of_lower_hyphenated_eq hkey' hkey hsame
    rw [h.eq_of_gives hother hentry hgives' hgives]

theorem findHeader?_eq_none {name : String} (hnone : ∀ entry ∈ e.bindings.entries, ∀ key,
      Gives entry key → Text.lower name ≠ Text.lower (.ofList (hyphenated key))) :
    findHeader? e.headers name = none := by
  refine findHeader?_eq_none_iff.mpr fun header hheader hsame => ?_
  obtain ⟨entry, hentry, key, hgives, rfl⟩ := h.mem_headers_iff.mp hheader
  rw [lower_headerName (h.isVariableName_of_gives hentry hgives)] at hsame
  exact hnone entry hentry key hgives hsame.symm

theorem findHeader?_content {name key : String} (hcontent : isContentVariable key = true)
    (hname : Text.lower name = Text.lower (.ofList (hyphenated key.toList))) :
    findHeader? e.headers name = (e.bindings.find? key).filter (!·.isEmpty) := by
  by_cases hgiven : ∃ value, e.bindings.find? key = some value ∧ value ≠ ""
  · obtain ⟨value, hfind, hvalue⟩ := hgiven
    rw [h.findHeader?_of_gives (Pairs.mem_of_find? hfind) (.content hcontent hvalue rfl) hname, hfind,
      Option.filter_some_pos (by simpa using hvalue)]
  · have hempty : (e.bindings.find? key).filter (!·.isEmpty) = none := by
      refine Option.filter_eq_none_iff.mpr fun value hfind => ?_
      have := fun hvalue => hgiven ⟨value, hfind, hvalue⟩
      simpa using this
    rw [hempty]
    refine h.findHeader?_eq_none fun entry hentry other hgives hsame => ?_
    have hkey : IsVariableName key.toList := by
      rcases eq_or_eq_of_isContentVariable hcontent with rfl | rfl <;> decide
    obtain rfl := eq_of_lower_hyphenated_eq hkey (h.isVariableName_of_gives hentry hgives)
      (hname.symm.trans hsame)
    cases hgives with
    | field => exact h.field_not_mem hcontent _ hentry
    | content _ hvalue hsame =>
        obtain rfl := String.toList_inj.mp hsame
        exact hgiven ⟨_, Pairs.valueOf?_of_mem h.nodup hentry, hvalue⟩

end IsRegular

/-! ## Requests -/

theorem header_ofPath (path method : String) (headers query : Pairs String) (body : List UInt8)
    (name default : String) : (Request.ofPath path method headers query body).header name default =
      (findHeader? headers name).getD default := rfl

theorem request_eq (e : Environ) :
    e.request = e.body.map fun body => .ofPath e.path (e.get "REQUEST_METHOD" "GET") e.headers
      (parseQuery (e.get "QUERY_STRING" "")) body := by
  rw [request]
  cases e.body <;> rfl

theorem IsRegular.body_cases {e : Environ} (h : e.IsRegular) :
    e.body = .error .lengthTooLarge ∧ greatestLength < e.contentLength ∨
      (∃ body, e.body = .ok body) ∧ e.contentLength ≤ greatestLength := by
  rw [body]
  by_cases hlength : 0 < e.contentLength
  · obtain ⟨bytes, hinput⟩ := Option.isSome_iff_exists.mp (h.input hlength)
    by_cases hlarge : greatestLength < e.contentLength
    · simp [hlength, hinput, hlarge]
    · simp [hlength, hinput, hlarge, Int.not_lt.mp hlarge]
  · have hsmall : e.contentLength ≤ greatestLength := by
      have : (0 : Int) ≤ greatestLength := by decide
      omega
    simp [hlength, hsmall]

/--
A regular environment gives a request, unless it announces more input than any
stream could hold.  In any spelling of its name a header is then read as the
variable that gives it, the two content variables unless they are empty, and
any other name is read as the default.
-/
theorem headers_read_back {e : Environ} (h : e.IsRegular) :
    (e.request = .error .lengthTooLarge ↔ greatestLength < e.contentLength) ∧
    (e.contentLength ≤ greatestLength → ∃ q, e.request = .ok q ∧ ∀ name default,
      (∀ key value, e.bindings.find? (.ofList (headerStem.toList ++ key)) = some value →
        Text.lower name = Text.lower (.ofList (hyphenated key)) → q.header name default = value) ∧
      (Text.lower name = "content-type" → q.header name default =
        ((e.bindings.find? "CONTENT_TYPE").filter (!·.isEmpty)).getD default) ∧
      (Text.lower name = "content-length" → q.header name default =
        ((e.bindings.find? "CONTENT_LENGTH").filter (!·.isEmpty)).getD default) ∧
      ((∀ key, .ofList (headerStem.toList ++ key) ∈ e.bindings.keys →
          Text.lower name ≠ Text.lower (.ofList (hyphenated key))) →
        Text.lower name ≠ "content-type" → Text.lower name ≠ "content-length" →
        q.header name default = default)) := by
  have htype : Text.lower (.ofList (hyphenated "CONTENT_TYPE".toList)) = "content-type" := by
    decide +kernel
  have hlength : Text.lower (.ofList (hyphenated "CONTENT_LENGTH".toList)) = "content-length" := by
    decide +kernel
  rcases h.body_cases with ⟨hbody, hlarge⟩ | ⟨⟨body, hbody⟩, hsmall⟩
  · refine ⟨⟨fun _ => hlarge, fun _ => ?_⟩, fun hsmall => absurd hlarge (Int.not_lt.mpr hsmall)⟩
    rw [request_eq, hbody]
    rfl
  have hrequest := e.request_eq
  rw [hbody] at hrequest
  refine ⟨⟨fun herror => ?_, fun hlarge => absurd hlarge (Int.not_lt.mpr hsmall)⟩, fun _ =>
    ⟨_, hrequest, fun name default => ⟨fun key value hfind hname => ?_, fun hname => ?_,
      fun hname => ?_, fun hother hnottype hnotlength => ?_⟩⟩⟩
  · simp [hrequest, Except.map] at herror
  · have hfound := h.findHeader?_of_gives (Pairs.mem_of_find? hfind) (.field key value) hname
    rw [header_ofPath, hfound, Option.getD_some]
  · rw [header_ofPath, h.findHeader?_content rfl (hname.trans htype.symm)]
  · rw [header_ofPath, h.findHeader?_content rfl (hname.trans hlength.symm)]
  · have hnone : findHeader? e.headers name = none := by
      refine h.findHeader?_eq_none fun entry hentry key hgives => ?_
      cases hgives with
      | field => exact hother key (List.mem_map_of_mem (f := Prod.fst) hentry)
      | content hcontent _ hkey =>
          subst hkey
          rcases eq_or_eq_of_isContentVariable hcontent with rfl | rfl
          · rwa [htype]
          · rwa [hlength]
    rw [header_ofPath, hnone, Option.getD_none]

/-- Letters behind digits are raised again, and an empty content type gives no header. -/
theorem headers_read_back_after_digits :
    let e : Environ := ⟨⟨[("HTTP_X_2AB", "v"), ("CONTENT_TYPE", ""), ("CONTENT_LENGTH", "2")]⟩, some [104, 105]⟩
    e.IsRegular ∧ e.contentLength ≤ greatestLength ∧
      ∃ q, e.request = .ok q ∧ q.header "x-2aB" "none" = "v" ∧
        q.header "Content-Type" "none" = "none" ∧ q.header "CONTENT-length" "none" = "2" ∧
        q.header "X" "none" = "none" := by
  intro e
  have hregular : e.IsRegular :=
    ⟨by decide, by decide +kernel, by decide, by decide, fun _ => rfl⟩
  have hlength : e.contentLength ≤ greatestLength := by decide +kernel
  obtain ⟨q, hrequest, hread⟩ := (headers_read_back hregular).2 hlength
  refine ⟨hregular, hlength, q, hrequest, ?_, ?_, ?_, ?_⟩
  · exact (hread "x-2aB" "none").1 "X_2AB".toList "v" (by decide) (by decide +kernel)
  · exact (hread "Content-Type" "none").2.1 (by decide +kernel)
  · exact (hread "CONTENT-length" "none").2.2.1 (by decide +kernel)
  · refine (hread "X" "none").2.2.2 (fun key hkey hsame => ?_) (by decide +kernel) (by decide +kernel)
    have hkeys := List.mem_map_of_mem (f := String.toList) hkey
    rw [String.toList_ofList] at hkeys
    have hdigits : key = "X_2AB".toList := by simpa [e, Pairs.keys, headerStem] using hkeys
    subst hdigits
    revert hsame
    decide +kernel

/-- Such a content length leaves no request to read a header from, though there is a stream. -/
theorem long_content_prevents_request :
    let e : Environ := ⟨⟨[("HTTP_X_A", "v"), ("CONTENT_LENGTH", "9223372036854775808")]⟩, some []⟩
    e.IsRegular ∧ e.request = .error .lengthTooLarge := by
  intro e
  exact ⟨⟨by decide, by decide +kernel, by decide, by decide, fun _ => rfl⟩, by decide +kernel⟩

end HttpRouting.Http.Environ

import PropertyTax.Library.Percent
import PropertyTax.Library.TextSplits
import PropertyTax.Sessions.SessionCalls

/-! The way of the session token through cookies: the service writes it, the browser sends
it among others, the proxy merges what it is sent, and the service reads it. -/
namespace PropertyTax.Http

abbrev Text := List Char

structure CookiePair where
  name : Text
  value : Text
deriving DecidableEq

/-- A cookie as a browser sends it, with no white space around its name. -/
structure Cookie extends CookiePair where
  name_ok : name.all (fun c => c ≠ ';' && c ≠ '=') = true
  name_trimmed : Js.trimChars name = name
  value_ok : value.all (fun c => c ≠ ';') = true

def CookiePair.text (pair : CookiePair) : Text := pair.name ++ '=' :: pair.value

def isBlank (text : Text) : Bool := (Js.trimChars text).isEmpty

/-! ### The proxy -/

/-- `header.split(";")`, part by part: a part without a name is left out. -/
def parsePart (part : Text) : Option CookiePair :=
  let trimmed := Js.trimChars part
  let name := trimmed.takeWhile fun c => c ≠ '='
  if name = [] || name.length = trimmed.length then none
  else some ⟨Js.trimChars name, trimmed.drop (name.length + 1)⟩

def parseCookieHeader (header : Option Text) : List CookiePair :=
  match header.filter fun header => !isBlank header with
  | none => []
  | some header => (header.splitOn ';').filterMap parsePart

/-- `map.get(name)` -/
def getCookie (map : List CookiePair) (name : Text) : Option Text :=
  (map.find? fun pair => pair.name = name).map CookiePair.value

/-- `map.set(name, value)`, which leaves a name at its place. -/
def setCookie (map : List CookiePair) (pair : CookiePair) : List CookiePair :=
  if map.any fun old => old.name = pair.name then
    map.map fun old => if old.name = pair.name then pair else old
  else map ++ [pair]

def putCookie (map : List CookiePair) (pair : CookiePair) : List CookiePair :=
  if (getCookie map pair.name).all isBlank && !isBlank pair.value then setCookie map pair
  else if (getCookie map pair.name).isNone then setCookie map pair
  else map

def mergeCookiePairs (rawHeader : Option Text) (jarPairs : List CookiePair) : List CookiePair :=
  jarPairs.foldl putCookie ((parseCookieHeader rawHeader).foldl putCookie [])

def cookieHeaderFromPairs (pairs : List CookiePair) : Option Text :=
  if pairs = [] then none else some ("; ".toList.intercalate (pairs.map CookiePair.text))

def resolveCookieHeaderForProxy (rawHeader : Option Text) (jarPairs : List CookiePair) :
    Option Text :=
  cookieHeaderFromPairs ((mergeCookiePairs rawHeader jarPairs).filter fun pair =>
    !isBlank pair.value)

/-! ### The readers and the writer -/

inductive UriError where
  | malformed
deriving DecidableEq

/-- The value that a part of the header has under a name. -/
def valueAt (name part : Text) : Option Text :=
  let trimmed := Js.trimChars part
  if (name ++ ['=']).isPrefixOf trimmed then
    let value := Js.trimChars (trimmed.drop (name.length + 1))
    if value.isEmpty then none else some value
  else none

def valueIn (names : List Text) (part : Text) : Option Text :=
  names.findSome? fun name => valueAt name part

/-- The first value in the header. -/
def valueUnder (names : List Text) (header : Option Text) : Option Text :=
  (header.filter fun header => !header.isEmpty).bind fun header =>
    (header.splitOn ';').findSome? (valueIn names)

/-- It is decoded, which throws where it is malformed. -/
def readCookie (names : List Text) (header : Option Text) : Except UriError (Option Text) :=
  match valueUnder names header with
  | none => .ok none
  | some value =>
      match Js.decodeURIComponent value with
      | none => .error .malformed
      | some text => .ok (some text)

def LEGACY_SESSION_COOKIE_NAME : Text := "chhata_session".toList

/-- `configured?.trim() || fallback` -/
def configuredName (configured : Option Text) (fallback : Text) : Text :=
  ((configured.map Js.trimChars).filter fun name => !name.isEmpty).getD fallback

def sessionCookieName (configured : Option Text) : Text :=
  configuredName configured LEGACY_SESSION_COOKIE_NAME

def csrfCookieName (configured : Option Text) : Text :=
  configuredName configured "csrf_token".toList

/-- `new Set([sessionCookieName(), "chhata_session"])` -/
def sessionNames (configured : Option Text) : List Text :=
  if sessionCookieName configured = LEGACY_SESSION_COOKIE_NAME then [LEGACY_SESSION_COOKIE_NAME]
  else [sessionCookieName configured, LEGACY_SESSION_COOKIE_NAME]

def readSessionToken (configured : Option Text) (header : Option Text) :
    Except UriError (Option Text) :=
  readCookie (sessionNames configured) header

def readCsrfCookie (configured : Option Text) (header : Option Text) :
    Except UriError (Option Text) :=
  readCookie [csrfCookieName configured] header

/-- The pair that `attachSessionCookie` writes. -/
def sessionPair (configured : Option Text) (token : SessionToken) : CookiePair :=
  ⟨sessionCookieName configured, Js.encodeURIComponent token.raw.toList⟩

/-- What the browser sends. -/
def cookieHeader (cookies : List Cookie) : Text :=
  "; ".toList.intercalate (cookies.map fun cookie => cookie.text)

/-! ### One pair of a header -/

/-- What is read from a pair under a name. -/
def valueOfPair (name : Text) (pair : CookiePair) : Option Text :=
  if pair.name = name && !isBlank pair.value then some (Js.trimChars pair.value) else none

/-- The first value that the cookies have under a name. -/
def valueSent (name : Text) (pairs : List CookiePair) : Option Text :=
  pairs.findSome? (valueOfPair name)

/-- White space at the end does not count when a value is blank. -/
theorem isBlank_rdropWhile (value : Text) :
    isBlank (value.rdropWhile Js.isSpace) = isBlank value := by
  rw [isBlank, isBlank, Js.trimChars_rdropWhile]

/-- A name that has no white space around it, and no mark of the header. -/
structure IsName (name : Text) : Prop where
  trimmed : Js.trimChars name = name
  noEquals : '=' ∉ name

theorem IsName.head {name : Text} (h : IsName name) : name.head?.any Js.isSpace = false := by
  rw [← h.trimmed]
  exact Js.head?_trimChars name

/-- Only the value loses white space when the text of a pair is trimmed. -/
theorem trimChars_text {pair : CookiePair} (h : IsName pair.name) :
    Js.trimChars pair.text = pair.name ++ '=' :: pair.value.rdropWhile Js.isSpace :=
  Js.trimChars_append_cons h.head rfl

/-- The name of a pair ends at the first equals sign. -/
theorem takeWhile_name {name : Text} (h : '=' ∉ name) (rest : Text) :
    (name ++ '=' :: rest).takeWhile (fun c => c ≠ '=') = name := by
  have hName : ∀ c ∈ name, decide (c ≠ '=') = true := by
    intro c hc
    exact decide_eq_true fun hSame => h (hSame ▸ hc)
  rw [List.takeWhile_append_of_pos hName, List.takeWhile_cons_of_neg (by simp), List.append_nil]

/-- The value of a pair starts after the first equals sign. -/
theorem drop_name (name rest : Text) : (name ++ '=' :: rest).drop (name.length + 1) = rest := by
  rw [← List.drop_drop, List.drop_left]
  rfl

/-- The text of a pair is read back, but for white space at the end of the value. -/
theorem parsePart_text {pair : CookiePair} (h : IsName pair.name) (hNe : pair.name ≠ []) :
    parsePart pair.text = some ⟨pair.name, pair.value.rdropWhile Js.isSpace⟩ := by
  simp only [parsePart, trimChars_text h]
  rw [takeWhile_name h.noEquals, drop_name, h.trimmed]
  simp [hNe]

theorem parsePart_text_nil {pair : CookiePair} (h : pair.name = []) :
    parsePart pair.text = none := by
  have hName : IsName pair.name := by
    rw [h]
    exact ⟨rfl, List.not_mem_nil⟩
  simp only [parsePart, trimChars_text hName]
  rw [takeWhile_name hName.noEquals, h]
  rfl

/-- A part belongs to the name that stands before its first equals sign. -/
theorem isPrefixOf_name {name other rest : Text} (hName : '=' ∉ name) (hOther : '=' ∉ other) :
    (other ++ ['=']).isPrefixOf (name ++ '=' :: rest) = decide (name = other) := by
  rw [Bool.eq_iff_iff, List.isPrefixOf_iff_prefix, decide_eq_true_iff]
  constructor
  · rintro ⟨after, hAfter⟩
    rw [List.append_assoc, List.singleton_append] at hAfter
    have hNames := congrArg (fun text => text.takeWhile fun c => c ≠ '=') hAfter
    simp only [takeWhile_name hOther, takeWhile_name hName] at hNames
    exact hNames.symm
  · rintro rfl
    exact ⟨rest, by simp⟩

/-- The value that a name has in the text of a pair. -/
theorem valueAt_text {name : Text} {pair : CookiePair} (hPair : IsName pair.name)
    (hName : '=' ∉ name) : valueAt name pair.text = valueOfPair name pair := by
  simp only [valueAt, trimChars_text hPair]
  rw [isPrefixOf_name hPair.noEquals hName]
  by_cases hSame : pair.name = name
  · subst hSame
    rw [drop_name, Js.trimChars_rdropWhile]
    by_cases hBlank : (Js.trimChars pair.value).isEmpty = true
    · simp [valueOfPair, isBlank, hBlank]
    · simp [valueOfPair, isBlank, hBlank]
  · simp [valueOfPair, hSame]

/-- Under names without a mark, a pair is read as what it holds. -/
theorem valueIn_text {names : List Text} {pair : CookiePair} (hPair : IsName pair.name)
    (h : ∀ name ∈ names, '=' ∉ name) :
    valueIn names pair.text = names.findSome? fun name => valueOfPair name pair := by
  rw [valueIn, ← List.head?_filterMap, ← List.head?_filterMap]
  congr 1
  exact List.filterMap_congr fun name hMem => valueAt_text hPair (h name hMem)

/-- What is read from the parts of a header is read from the pairs in it. -/
theorem filterMap_join {α : Type} {read : Text → Option α} {pairs : List CookiePair}
    (hTrim : ∀ part, read (Js.trimChars part) = read part) (hNe : pairs ≠ [])
    (h : ∀ pair ∈ pairs, ';' ∉ pair.text) :
    (("; ".toList.intercalate (pairs.map CookiePair.text)).splitOn ';').filterMap read =
      pairs.filterMap fun pair => read pair.text := by
  have hSplit := @Js.map_trimChars_splitOn ';' (pairs.map CookiePair.text) (by decide)
    (by simpa using hNe) (List.forall_mem_map.mpr h)
  have hRead : read = read ∘ Js.trimChars := by
    funext part
    exact (hTrim part).symm
  rw [hRead, ← List.filterMap_map]
  change (List.map Js.trimChars (List.splitOn ';' ([';', ' '].intercalate _))).filterMap read = _
  rw [hSplit, List.map_map, List.filterMap_map]
  rfl

/-- The pair that the proxy has of a cookie. -/
def Cookie.received (cookie : Cookie) : Option CookiePair :=
  if cookie.name = [] then none
  else some ⟨cookie.name, cookie.value.rdropWhile Js.isSpace⟩

/-- The name of a cookie is a token. -/
theorem Cookie.isName (cookie : Cookie) : IsName cookie.name := by
  refine ⟨cookie.name_trimmed, fun hMem => ?_⟩
  simpa using List.all_eq_true.mp cookie.name_ok '=' hMem

/-- A cookie holds no semicolon, which would end it. -/
theorem Cookie.noSemicolon (cookie : Cookie) : ';' ∉ cookie.text := by
  intro hMem
  rcases List.mem_append.mp hMem with hName | hValue
  · simpa using List.all_eq_true.mp cookie.name_ok ';' hName
  · have hValue := List.mem_of_ne_of_mem (by decide) hValue
    simpa using List.all_eq_true.mp cookie.value_ok ';' hValue

/-- The proxy reads a cookie back as it receives it. -/
theorem Cookie.parsePart_text (cookie : Cookie) : parsePart cookie.text = cookie.received := by
  unfold Cookie.received
  split_ifs with hName
  · exact parsePart_text_nil hName
  · exact Http.parsePart_text cookie.isName hName

theorem not_isBlank_of_mem {text : Text} {c : Char} (hMem : c ∈ text)
    (hc : Js.isSpace c = false) : isBlank text = false := by
  have hPart : [c] <:+: Js.trimChars text := by
    refine Js.infix_trimChars (by simpa using hc) ?_
    obtain ⟨before, after, rfl⟩ := List.append_of_mem hMem
    exact ⟨before, after, by simp⟩
  have hTrimmed : c ∈ Js.trimChars text := hPart.subset List.mem_cons_self
  rw [isBlank, List.isEmpty_eq_false_iff]
  exact List.ne_nil_of_mem hTrimmed

/-- A header with a cookie has an equals sign. -/
theorem equals_mem_join {pairs : List CookiePair} (hNe : pairs ≠ []) :
    '=' ∈ "; ".toList.intercalate (pairs.map CookiePair.text) := by
  obtain ⟨first, rest, rfl⟩ := List.exists_cons_of_ne_nil hNe
  have hFirst : '=' ∈ first.text := List.mem_append_right _ List.mem_cons_self
  rw [List.map_cons]
  cases rest with
  | nil =>
      rw [List.map_nil, List.intercalate_singleton]
      exact hFirst
  | cons next rest =>
      rw [List.map_cons, List.intercalate_cons_cons, List.append_assoc]
      exact List.mem_append_left _ hFirst

/-- The proxy reads every cookie of the header, in order. -/
theorem parseCookieHeader_cookies {cookies : List Cookie} (hNe : cookies ≠ []) :
    parseCookieHeader (some (cookieHeader cookies)) = cookies.filterMap Cookie.received := by
  have hHeader : cookieHeader cookies =
      "; ".toList.intercalate ((cookies.map Cookie.toCookiePair).map CookiePair.text) := by
    rw [cookieHeader, List.map_map]
    rfl
  have hPairs : cookies.map Cookie.toCookiePair ≠ [] := by simpa using hNe
  have hBlank := not_isBlank_of_mem (equals_mem_join hPairs) rfl
  have hTrim (part : Text) : parsePart (Js.trimChars part) = parsePart part := by
    rw [parsePart, Js.trimChars_trimChars, parsePart]
  have hParts : ∀ pair ∈ cookies.map Cookie.toCookiePair, ';' ∉ pair.text := by
    intro pair hPair
    obtain ⟨cookie, -, rfl⟩ := List.mem_map.mp hPair
    exact cookie.noSemicolon
  rw [hHeader, parseCookieHeader, Option.filter_some, if_pos (by rw [hBlank]; rfl)]
  change List.filterMap _ _ = _
  rw [filterMap_join hTrim hPairs hParts, List.filterMap_map]
  congr 1
  funext cookie
  exact cookie.parsePart_text

/-- What the readers find in a header that the proxy has built. -/
theorem valueUnder_join {names : List Text} {pairs : List CookiePair}
    (h : ∀ pair ∈ pairs, IsName pair.name ∧ ';' ∉ pair.text)
    (hNames : ∀ name ∈ names, '=' ∉ name) :
    valueUnder names (cookieHeaderFromPairs pairs) =
      pairs.findSome? fun pair => names.findSome? fun name => valueOfPair name pair := by
  unfold cookieHeaderFromPairs
  split_ifs with hNone
  · rw [hNone]
    rfl
  · have hHeader : ("; ".toList.intercalate (pairs.map CookiePair.text)).isEmpty = false :=
      List.isEmpty_eq_false_iff.mpr (List.ne_nil_of_mem (equals_mem_join hNone))
    have hTrim (part : Text) : valueIn names (Js.trimChars part) = valueIn names part := by
      simp only [valueIn, valueAt, Js.trimChars_trimChars]
    rw [valueUnder, Option.filter_some, if_pos (by rw [hHeader]; rfl), Option.bind_some,
      ← List.head?_filterMap, filterMap_join hTrim hNone fun pair hPair => (h pair hPair).2,
      ← List.head?_filterMap]
    congr 1
    refine List.filterMap_congr fun pair hPair => ?_
    exact valueIn_text (h pair hPair).1 hNames

/-! ### The pairs that are merged -/

/-- The value that is read under a name, if one is held. -/
def valueHeld (map : List CookiePair) (name : Text) : Option Text :=
  (getCookie map name).bind fun value =>
    if isBlank value then none else some (Js.trimChars value)

section Merge
variable {map : List CookiePair} {pair : CookiePair}

/-- A cookie is missing when no pair has its name. -/
theorem getCookie_isNone {name : Text} :
    (getCookie map name).isNone = true ↔ name ∉ map.map CookiePair.name := by
  simp [getCookie]

/-- A cookie that is set again keeps its place. -/
theorem names_setCookie : (setCookie map pair).map CookiePair.name =
    if pair.name ∈ map.map CookiePair.name then map.map CookiePair.name
    else map.map CookiePair.name ++ [pair.name] := by
  have hAny : (map.any fun old => old.name = pair.name) = true ↔
      pair.name ∈ map.map CookiePair.name := by simp
  unfold setCookie
  by_cases hHeld : pair.name ∈ map.map CookiePair.name
  · rw [if_pos (hAny.mpr hHeld), if_pos hHeld, List.map_map]
    congr 1
    funext old
    by_cases hSame : old.name = pair.name
    · simp [hSame]
    · simp [hSame]
  · rw [if_neg (mt hAny.mp hHeld), if_neg hHeld, List.map_append, List.map_singleton]

/-- A cookie that is set has its new value, and the others have theirs. -/
theorem getCookie_setCookie (name : Text) : getCookie (setCookie map pair) name =
    if pair.name = name then some pair.value else getCookie map name := by
  unfold getCookie setCookie
  by_cases hAny : (map.any fun old => old.name = pair.name) = true
  · have hName : ((fun old : CookiePair => decide (old.name = name)) ∘ fun old =>
        if old.name = pair.name then pair else old) = fun old => decide (old.name = name) := by
      funext old
      by_cases hSame : old.name = pair.name
      · simp [hSame]
      · simp [hSame]
    rw [if_pos hAny, List.find?_map, hName]
    cases hFound : map.find? fun old => old.name = name with
    | none =>
        have hOther : pair.name ≠ name := by
          intro hSame
          obtain ⟨old, hMem, hOld⟩ := List.any_eq_true.mp hAny
          refine absurd hOld ?_
          rw [hSame]
          exact List.find?_eq_none.mp hFound old hMem
        rw [if_neg hOther]
        rfl
    | some old =>
        have hOld : old.name = name := by
          have hFoundName := List.find?_some hFound
          simpa using hFoundName
        by_cases hSame : pair.name = name
        · simp [hOld, hSame]
        · simp [hOld, hSame, Ne.symm hSame]
  · rw [if_neg hAny, List.find?_append]
    by_cases hSame : pair.name = name
    · have hNone : (map.find? fun old => old.name = name) = none := by
        rw [List.find?_eq_none]
        intro old hMem hOld
        refine hAny (List.any_eq_true.mpr ⟨old, hMem, ?_⟩)
        rw [hSame]
        exact hOld
      simp [hNone, hSame]
    · simp [hSame]

/-- A pair is put in its place, or its name has a value already. -/
theorem putCookie_cases :
    (putCookie map pair = setCookie map pair ∧
      ((getCookie map pair.name).all isBlank = true ∧ isBlank pair.value = false ∨
        getCookie map pair.name = none ∧ isBlank pair.value = true)) ∨
    (putCookie map pair = map ∧ ∃ old, getCookie map pair.name = some old ∧
      (isBlank old = false ∨ isBlank pair.value = true)) := by
  unfold putCookie
  cases hHeld : getCookie map pair.name with
  | none => cases hBlank : isBlank pair.value <;> simp
  | some old => cases hOld : isBlank old <;> cases hBlank : isBlank pair.value <;> simp [hOld]

/-- A cookie that is put into the jar keeps its place. -/
theorem names_putCookie : (putCookie map pair).map CookiePair.name =
    if pair.name ∈ map.map CookiePair.name then map.map CookiePair.name
    else map.map CookiePair.name ++ [pair.name] := by
  rcases @putCookie_cases map pair with ⟨hPut, -⟩ | ⟨hPut, old, hOld, -⟩
  · rw [hPut, names_setCookie]
  · have hHeld : pair.name ∈ map.map CookiePair.name := by
      by_contra hNone
      have hIsNone := getCookie_isNone.mpr hNone
      rw [hOld] at hIsNone
      cases hIsNone
    rw [hPut, if_pos hHeld]

/-- The first value under a name is kept. -/
theorem valueHeld_putCookie (name : Text) : valueHeld (putCookie map pair) name =
    (valueHeld map name).or (valueOfPair name pair) := by
  rcases @putCookie_cases map pair with
    ⟨hPut, hSet⟩ | ⟨hPut, old, hOld, hKept⟩
  · rw [hPut, valueHeld, getCookie_setCookie]
    split_ifs with hSame
    · subst hSame
      rcases hSet with ⟨hHeld, hValue⟩ | ⟨hHeld, hBlank⟩
      · have hNone : valueHeld map pair.name = none := by
          unfold valueHeld
          cases hOld : getCookie map pair.name with
          | none => rfl
          | some old =>
              rw [hOld] at hHeld
              exact if_pos hHeld
        simp [hNone, valueOfPair, hValue]
      · simp [valueHeld, hHeld, valueOfPair, hBlank]
    · simp [valueHeld, valueOfPair, hSame]
  · rw [hPut]
    by_cases hSame : pair.name = name
    · subst hSame
      rcases hKept with hValue | hBlank
      · simp [valueHeld, hOld, hValue]
      · simp [valueOfPair, hBlank]
    · simp [valueOfPair, hSame]

variable {pairs : List CookiePair}

theorem valueSent_cons (name : Text) (pair : CookiePair) (pairs : List CookiePair) :
    valueSent name (pair :: pairs) = (valueOfPair name pair).or (valueSent name pairs) := by
  rw [valueSent, List.findSome?_cons]
  cases valueOfPair name pair <;> rfl

/-- The cookies of the jar win over those that are merged into it. -/
theorem valueHeld_merge (name : Text) : valueHeld (pairs.foldl putCookie map) name =
    (valueHeld map name).or (valueSent name pairs) := by
  induction pairs generalizing map with
  | nil => simp [valueSent]
  | cons pair pairs ih =>
      rw [List.foldl_cons, ih, valueHeld_putCookie, Option.or_assoc, valueSent_cons]

/-- The cookies of the jar come first. -/
theorem prefix_names_merge :
    map.map CookiePair.name <+: (pairs.foldl putCookie map).map CookiePair.name := by
  induction pairs generalizing map with
  | nil => exact List.prefix_refl _
  | cons pair pairs ih =>
      refine List.IsPrefix.trans ?_ ih
      rw [names_putCookie]
      split_ifs
      · exact List.prefix_refl _
      · exact List.prefix_append _ _

theorem names_merge_nodup (h : (map.map CookiePair.name).Nodup) :
    ((pairs.foldl putCookie map).map CookiePair.name).Nodup := by
  induction pairs generalizing map with
  | nil => exact h
  | cons pair pairs ih =>
      refine ih ?_
      rw [names_putCookie]
      split_ifs with hHeld
      · exact h
      · rw [← List.concat_eq_append]
        exact (List.nodup_concat _ _).mpr ⟨hHeld, h⟩

/-- The merge has the names of both sides, and no others. -/
theorem mem_names_merge {name : Text} : name ∈ (pairs.foldl putCookie map).map CookiePair.name ↔
    name ∈ map.map CookiePair.name ∨ name ∈ pairs.map CookiePair.name := by
  induction pairs generalizing map with
  | nil => simp
  | cons pair pairs ih =>
      rw [List.foldl_cons, ih, names_putCookie, List.map_cons, List.mem_cons]
      split_ifs with hHeld
      · constructor
        · rintro (hMap | hPairs)
          · exact .inl hMap
          · exact .inr (.inr hPairs)
        · rintro (hMap | rfl | hPairs)
          · exact .inl hMap
          · exact .inl hHeld
          · exact .inr hPairs
      · rw [List.mem_append, List.mem_singleton, or_assoc]

theorem mem_putCookie {put : CookiePair} (h : put ∈ putCookie map pair) :
    put ∈ map ∨ put = pair := by
  have hSet (hMem : put ∈ setCookie map pair) : put ∈ map ∨ put = pair := by
    unfold setCookie at hMem
    split_ifs at hMem
    · obtain ⟨old, hOld, rfl⟩ := List.mem_map.mp hMem
      split_ifs
      · exact .inr rfl
      · exact .inl hOld
    · simpa using hMem
  rcases @putCookie_cases map pair with ⟨hPut, -⟩ | ⟨hPut, -⟩
  · exact hSet (hPut ▸ h)
  · exact .inl (hPut ▸ h)

/-- Every merged pair comes from one of the two sides. -/
theorem mem_merge {put : CookiePair} (h : put ∈ pairs.foldl putCookie map) :
    put ∈ map ∨ put ∈ pairs := by
  induction pairs generalizing map with
  | nil => exact .inl h
  | cons pair pairs ih =>
      rcases ih h with hPut | hRest
      · rcases mem_putCookie hPut with hMap | rfl
        · exact .inl hMap
        · exact .inr List.mem_cons_self
      · exact .inr (List.mem_cons_of_mem _ hRest)

/-- A name of the merged pairs has what is held under it. -/
theorem getCookie_of_mem (h : (map.map CookiePair.name).Nodup) (hMem : pair ∈ map) :
    getCookie map pair.name = some pair.value := by
  induction map with
  | nil => cases hMem
  | cons first map ih =>
      rw [List.map_cons, List.nodup_cons] at h
      unfold getCookie at ih ⊢
      rcases List.mem_cons.mp hMem with rfl | hRest
      · simp
      · have hOther : first.name ≠ pair.name := by
          intro hSame
          refine h.1 ?_
          rw [hSame]
          exact List.mem_map_of_mem hRest
        rw [List.find?_cons_of_neg (by simpa using hOther)]
        exact ih h.2 hRest

end Merge

/-- Among names, the value of one name is found if it is one of them. -/
theorem findSome?_named {names : List Text} (name : Text) (value : Text → Option Text) :
    (names.findSome? fun other => if name = other then value other else none) =
      if name ∈ names then value name else none := by
  induction names with
  | nil => rfl
  | cons first names ih =>
      rw [List.findSome?_cons, ih]
      by_cases hSame : name = first
      · subst hSame
        cases value name <;> simp
      · simp [hSame]

/-- What the merged pairs are read as: under the first of their names that counts. -/
theorem findSome?_merged {map : List CookiePair} (names : List Text)
    (h : (map.map CookiePair.name).Nodup) :
    ((map.filter fun pair => !isBlank pair.value).findSome? fun pair =>
      names.findSome? fun name => valueOfPair name pair) =
    (map.map CookiePair.name).findSome? fun name =>
      if name ∈ names then valueHeld map name else none := by
  rw [List.findSome?_map, ← List.head?_filterMap, ← List.head?_filterMap, List.filterMap_filter]
  congr 1
  refine List.filterMap_congr fun pair hPair => ?_
  have hHeld : valueHeld map pair.name =
      if isBlank pair.value then none else some (Js.trimChars pair.value) := by
    rw [valueHeld, getCookie_of_mem h hPair, Option.bind_some]
  have hValue (name : Text) : valueOfPair name pair =
      if pair.name = name then valueHeld map name else none := by
    unfold valueOfPair
    by_cases hSame : pair.name = name
    · subst hSame
      rw [hHeld]
      cases isBlank pair.value <;> simp
    · simp [hSame]
  have hNames := @findSome?_named names pair.name (valueHeld map)
  simp only [hValue, hNames, Function.comp_apply]
  cases hBlank : isBlank pair.value with
  | false => rfl
  | true => simp [hHeld, hBlank]

/-! ### What makes a reader throw -/

/-- A part of a header gives a name a value. -/
def HasValue (name part value : Text) : Prop :=
  value ≠ [] ∧
    ∃ written, Js.trimChars part = name ++ '=' :: written ∧ Js.trimChars written = value

/-- The first value that a header gives one of the names. -/
def FirstValue (names : List Text) (header value : Text) : Prop :=
  ∃ front part rest, header.splitOn ';' = front ++ part :: rest ∧
    (∃ earlier name later, names = earlier ++ name :: later ∧ HasValue name part value ∧
      ∀ other ∈ earlier, ∀ found, ¬HasValue other part found) ∧
    ∀ other ∈ front, ∀ name ∈ names, ∀ found, ¬HasValue name other found

section Reading
variable {names : List Text} {part value : Text}

/-- A name has a value in a part exactly as stated. -/
theorem valueAt_eq_some {name : Text} :
    valueAt name part = some value ↔ HasValue name part value := by
  unfold valueAt
  constructor
  · intro h
    dsimp only at h
    split_ifs at h with hPrefix hEmpty
    cases h
    obtain ⟨written, hWritten⟩ := List.isPrefixOf_iff_prefix.mp hPrefix
    rw [List.append_assoc, List.singleton_append] at hWritten
    refine ⟨by simpa using hEmpty, written, hWritten.symm, ?_⟩
    rw [← hWritten, drop_name]
  · rintro ⟨hNe, written, hPart, rfl⟩
    have hPrefix : (name ++ ['=']).isPrefixOf (Js.trimChars part) = true :=
      List.isPrefixOf_iff_prefix.mpr ⟨written, by rw [hPart]; simp⟩
    dsimp only
    rw [if_pos hPrefix, hPart, drop_name, if_neg (by simpa using hNe)]

theorem valueAt_eq_none {name : Text} :
    valueAt name part = none ↔ ∀ found, ¬HasValue name part found := by
  simp only [← valueAt_eq_some, Option.eq_none_iff_forall_ne_some, ne_eq]

/-- The first of the names that has a value in the part decides. -/
theorem valueIn_eq_some : valueIn names part = some value ↔
    ∃ earlier name later, names = earlier ++ name :: later ∧ HasValue name part value ∧
      ∀ other ∈ earlier, ∀ found, ¬HasValue other part found := by
  simp only [valueIn, List.findSome?_eq_some_iff, valueAt_eq_some, valueAt_eq_none]

/-- None of the names has a value in the part. -/
theorem valueIn_eq_none : valueIn names part = none ↔
    ∀ name ∈ names, ∀ found, ¬HasValue name part found := by
  simp only [valueIn, List.findSome?_eq_none_iff, valueAt_eq_none]

/-- The first part with a value for one of the names decides. -/
theorem firstValue_iff {header : Text} :
    (header.splitOn ';').findSome? (valueIn names) = some value ↔
      FirstValue names header value := by
  simp only [FirstValue, List.findSome?_eq_some_iff, valueIn_eq_some, valueIn_eq_none]

/-- The value that is read from a header is the first one under the names. -/
theorem mem_valueUnder {header : Option Text} : value ∈ valueUnder names header ↔
    ∃ text ∈ header, FirstValue names text value := by
  have hEmpty : (List.splitOn ';' []).findSome? (valueIn names) = none := by
    rw [List.splitOn_nil, List.findSome?_eq_none_iff]
    intro part hPart
    rw [List.mem_singleton.mp hPart, valueIn_eq_none]
    rintro name - found ⟨-, written, hText, -⟩
    cases name <;> cases hText
  have hValue : valueUnder names header =
      header.bind fun text => (text.splitOn ';').findSome? (valueIn names) := by
    unfold valueUnder
    cases header with
    | none => rfl
    | some text =>
        cases text with
        | nil => exact hEmpty.symm
        | cons c text => rfl
  simp only [hValue, Option.mem_def, Option.bind_eq_some_iff, firstValue_iff]

/-- A reader throws at nothing but the first value. -/
theorem readCookie_isOk {header : Option Text} :
    (∃ answer, readCookie names header = .ok answer) ↔
      ∀ text ∈ header, ∀ value, FirstValue names text value →
        Js.decodeURIComponent value ≠ none := by
  have hFirst : (∀ text ∈ header, ∀ value, FirstValue names text value →
      Js.decodeURIComponent value ≠ none) ↔
        ∀ value ∈ valueUnder names header, Js.decodeURIComponent value ≠ none := by
    simp only [mem_valueUnder]
    constructor
    · rintro h value ⟨text, hText, hValue⟩
      exact h text hText value hValue
    · intro h text hText value hValue
      exact h value ⟨text, hText, hValue⟩
  rw [hFirst]
  unfold readCookie
  cases valueUnder names header with
  | none => simp
  | some value => cases hDecoded : Js.decodeURIComponent value <;> simp [hDecoded]

end Reading

/-! ### The way of the token -/

/-- The session is looked for under the configured and the old name. -/
theorem mem_sessionNames {configured : Option Text} {name : Text} :
    name ∈ sessionNames configured ↔
      name = sessionCookieName configured ∨ name = LEGACY_SESSION_COOKIE_NAME := by
  unfold sessionNames
  split_ifs with hSame
  · simp [hSame]
  · simp

theorem LEGACY_SESSION_COOKIE_NAME_ok :
    '=' ∉ LEGACY_SESSION_COOKIE_NAME ∧ LEGACY_SESSION_COOKIE_NAME ≠ [] := by
  decide

theorem valueSent_append (name : Text) (first second : List CookiePair) :
    valueSent name (first ++ second) = (valueSent name first).or (valueSent name second) :=
  List.findSome?_append

/-- A cookie has the value that it was sent with, as long as it has a name. -/
theorem valueSent_received {name : Text} (hNe : name ≠ []) (cookies : List Cookie) :
    valueSent name (cookies.filterMap Cookie.received) =
      valueSent name (cookies.map Cookie.toCookiePair) := by
  unfold valueSent
  rw [← List.head?_filterMap, ← List.head?_filterMap, List.filterMap_filterMap,
    List.filterMap_map]
  congr 2
  funext cookie
  unfold Cookie.received
  split_ifs with hName
  · simp [valueOfPair, hName, hNe.symm]
  · simp [valueOfPair, isBlank_rdropWhile, Js.trimChars_rdropWhile]

theorem valueSent_of_ne {name : Text} {pairs : List CookiePair}
    (h : ∀ pair ∈ pairs, pair.name ≠ name) : valueSent name pairs = none := by
  rw [valueSent, List.findSome?_eq_none_iff]
  intro pair hPair
  simp [valueOfPair, h pair hPair]

/-- The letters of a token are those that percent-encoding leaves alone. -/
theorem isUnreserved_of_isBase64Url {c : Char} (h : isBase64Url c = true) :
    Js.isUnreserved c = true ∧ c ≠ '%' := by
  constructor
  · unfold isBase64Url at h
    simp only [Bool.or_eq_true, beq_iff_eq] at h
    rcases h with (hAlphanum | rfl) | rfl
    · simp [Js.isUnreserved, hAlphanum]
    · rfl
    · rfl
  · rintro rfl
    revert h
    decide

/-- A token is its own escaped form. -/
theorem encodeURIComponent_token (token : SessionToken) :
    Js.encodeURIComponent token.raw.toList = token.raw.toList :=
  Js.encodeURIComponent_eq_self fun c hc =>
    (isUnreserved_of_isBase64Url (List.all_eq_true.mp token.base64url c hc)).1

/-- Decoding leaves a token as it is. -/
theorem decodeURIComponent_token (token : SessionToken) :
    Js.decodeURIComponent token.raw.toList = some token.raw.toList := by
  apply Js.decodeURIComponent_eq_self
  intro hMem
  exact (isUnreserved_of_isBase64Url (List.all_eq_true.mp token.base64url '%' hMem)).2 rfl

/-- Trimming leaves a token as it is. -/
theorem trimChars_token (token : SessionToken) :
    Js.trimChars token.raw.toList = token.raw.toList := by
  have hTrim := congrArg String.toList token.trim_raw
  rwa [Js.trim, String.toList_ofList] at hTrim

theorem sessionCookieName_ne_nil (configured : Option Text) :
    sessionCookieName configured ≠ [] := by
  unfold sessionCookieName configuredName
  cases hName : (configured.map Js.trimChars).filter fun name => !name.isEmpty with
  | none => exact LEGACY_SESSION_COOKIE_NAME_ok.2
  | some name =>
      have hMem := (Option.filter_eq_some_iff.mp hName).2
      rw [Option.getD_some]
      simpa using hMem

section Token
variable {configured : Option Text} {token : SessionToken} {mine : Cookie}
  {before after jar : List Cookie}

/-- What the proxy has of the session cookie. -/
theorem received_session (h : mine.toCookiePair = sessionPair configured token) :
    mine.received = some ⟨sessionCookieName configured, token.raw.toList⟩ := by
  have hName : mine.name = sessionCookieName configured := congrArg CookiePair.name h
  have hValue : mine.value = token.raw.toList := by
    rw [← encodeURIComponent_token token]
    exact congrArg CookiePair.value h
  have hTrimmed : token.raw.toList.rdropWhile Js.isSpace = token.raw.toList := by
    rw [List.rdropWhile_eq_self_iff]
    intro hNe
    rw [token.isSpace_raw _ (List.getLast_mem hNe)]
    decide
  rw [Cookie.received, hName, hValue, if_neg (sessionCookieName_ne_nil configured), hTrimmed]

/-- A session cookie gives the token that was put into it. -/
theorem valueOfPair_session (configured : Option Text) (token : SessionToken) :
    valueOfPair (sessionCookieName configured)
      ⟨sessionCookieName configured, token.raw.toList⟩ = some token.raw.toList := by
  have hNe : token.raw.toList ≠ [] := fun hNil => by
    have hLength := token.length
    rw [hNil] at hLength
    cases hLength
  have hBlank : isBlank token.raw.toList = false := by
    rw [isBlank, trimChars_token, List.isEmpty_eq_false_iff]
    exact hNe
  rw [valueOfPair, trimChars_token]
  simp [hBlank]

/-- The pairs that the proxy merges of the cookies and its own jar. -/
def merged (cookies jar : List Cookie) : List CookiePair :=
  (cookies.filterMap Cookie.received ++ jar.map Cookie.toCookiePair).foldl putCookie []

/-- The merged header is the cookies of the request, with those of the jar added. -/
theorem mergeCookiePairs_cookies {cookies : List Cookie} (hNe : cookies ≠ [])
    (jar : List Cookie) : mergeCookiePairs (some (cookieHeader cookies))
      (jar.map Cookie.toCookiePair) = merged cookies jar := by
  rw [mergeCookiePairs, parseCookieHeader_cookies hNe, ← List.foldl_append]
  rfl

/-- A merged header holds the value of the first cookie of a name. -/
theorem valueHeld_merged (name : Text) (cookies jar : List Cookie) :
    valueHeld (merged cookies jar) name =
      valueSent name (cookies.filterMap Cookie.received ++ jar.map Cookie.toCookiePair) := by
  rw [merged, valueHeld_merge]
  rfl

theorem merged_nodup (cookies jar : List Cookie) :
    ((merged cookies jar).map CookiePair.name).Nodup :=
  names_merge_nodup List.nodup_nil

/-- The pairs make a header again. -/
theorem merged_ok {pair : CookiePair} (h : pair ∈ merged before jar) :
    IsName pair.name ∧ ';' ∉ pair.text := by
  rcases mem_merge h with hNone | hPair
  · cases hNone
  · rcases List.mem_append.mp hPair with hSent | hJar
    · obtain ⟨cookie, -, hReceived⟩ := List.mem_filterMap.mp hSent
      unfold Cookie.received at hReceived
      split_ifs at hReceived
      cases hReceived
      refine ⟨cookie.isName, fun hMem => cookie.noSemicolon ?_⟩
      rcases List.mem_append.mp hMem with hName | hValue
      · exact List.mem_append_left _ hName
      · refine List.mem_append_right _ ?_
        rcases List.mem_cons.mp hValue with hEquals | hValue
        · cases hEquals
        · exact List.mem_cons_of_mem _ ((List.rdropWhile_prefix _ _).subset hValue)
    · obtain ⟨cookie, -, rfl⟩ := List.mem_map.mp hJar
      exact ⟨cookie.isName, cookie.noSemicolon⟩

/-- A name is received exactly if a cookie of that name was sent. -/
theorem mem_names_received {name : Text} (hNe : name ≠ []) (cookies : List Cookie) :
    name ∈ (cookies.filterMap Cookie.received).map CookiePair.name ↔
      name ∈ cookies.map fun cookie => cookie.name := by
  rw [List.mem_map, List.mem_map]
  constructor
  · rintro ⟨pair, hPair, rfl⟩
    obtain ⟨cookie, hCookie, hReceived⟩ := List.mem_filterMap.mp hPair
    unfold Cookie.received at hReceived
    split_ifs at hReceived
    cases hReceived
    exact ⟨cookie, hCookie, rfl⟩
  · rintro ⟨cookie, hCookie, rfl⟩
    exact ⟨_, List.mem_filterMap.mpr ⟨cookie, hCookie, if_neg hNe⟩, rfl⟩

/-- The names that the proxy has before that of the session. -/
theorem names_merged (h : mine.toCookiePair = sessionPair configured token)
    (hOthers : ∀ cookie ∈ before, cookie.name ≠ sessionCookieName configured) :
    ∃ first rest : List Text,
      (merged (before ++ mine :: after) jar).map CookiePair.name =
        first ++ sessionCookieName configured :: rest ∧
      ∀ name ≠ [], name ∈ first ↔ name ∈ before.map fun cookie => cookie.name := by
  have hFirst (name : Text) (hNe : name ≠ []) :
      name ∈ (merged before []).map CookiePair.name ↔
        name ∈ before.map fun cookie => cookie.name := by
    rw [merged, List.map_nil, List.append_nil, mem_names_merge, mem_names_received hNe]
    simp
  have hFresh : sessionCookieName configured ∉ (merged before []).map CookiePair.name := by
    rw [hFirst _ (sessionCookieName_ne_nil configured)]
    simpa using hOthers
  have hPut : (putCookie (merged before [])
      ⟨sessionCookieName configured, token.raw.toList⟩).map CookiePair.name =
        (merged before []).map CookiePair.name ++ [sessionCookieName configured] := by
    rw [names_putCookie, if_neg hFresh]
  obtain ⟨rest, hRest⟩ := @prefix_names_merge
    (putCookie (merged before []) ⟨sessionCookieName configured, token.raw.toList⟩)
    (after.filterMap Cookie.received ++ jar.map Cookie.toCookiePair)
  refine ⟨(merged before []).map CookiePair.name, rest, ?_, hFirst⟩
  rw [hPut, List.append_assoc, List.singleton_append] at hRest
  rw [hRest, merged, merged, List.filterMap_append, List.filterMap_cons, received_session h]
  simp

/-- What a name holds when the session cookie comes between others. -/
theorem valueHeld_session (h : mine.toCookiePair = sessionPair configured token) {name : Text}
    (hNe : name ≠ []) : valueHeld (merged (before ++ mine :: after) jar) name =
      (valueSent name (before.map Cookie.toCookiePair)).or
        ((valueOfPair name ⟨sessionCookieName configured, token.raw.toList⟩).or
          (valueSent name ((after ++ jar).map Cookie.toCookiePair))) := by
  rw [valueHeld_merged, List.filterMap_append, List.filterMap_cons, received_session h,
    List.append_assoc, List.cons_append, valueSent_append, valueSent_cons, valueSent_append,
    valueSent_received hNe, valueSent_received hNe, List.map_append, valueSent_append]

/-- The value that the service finds in what the proxy sends. -/
theorem valueUnder_forwarded (h : mine.toCookiePair = sessionPair configured token)
    (hOthers : ∀ cookie ∈ before ++ after, cookie.name ≠ sessionCookieName configured) :
    valueUnder (sessionNames configured)
      (resolveCookieHeaderForProxy (some (cookieHeader (before ++ mine :: after)))
        (jar.map Cookie.toCookiePair)) =
    some ((if LEGACY_SESSION_COOKIE_NAME ∈ before.map fun cookie => cookie.name
      then valueSent LEGACY_SESSION_COOKIE_NAME
        ((before ++ after ++ jar).map Cookie.toCookiePair)
      else none).getD token.raw.toList) := by
  have hName : mine.name = sessionCookieName configured := congrArg CookiePair.name h
  have hNames : ∀ name ∈ sessionNames configured, '=' ∉ name := by
    intro name hMem
    rcases mem_sessionNames.mp hMem with rfl | rfl
    · rw [← hName]
      exact mine.isName.noEquals
    · exact LEGACY_SESSION_COOKIE_NAME_ok.1
  have hNe : before ++ mine :: after ≠ [] := by simp
  have hBefore : ∀ cookie ∈ before, cookie.name ≠ sessionCookieName configured := by
    intro cookie hMem
    exact hOthers cookie (List.mem_append_left _ hMem)
  rw [resolveCookieHeaderForProxy, mergeCookiePairs_cookies hNe,
    valueUnder_join (fun pair hPair => merged_ok (List.mem_of_mem_filter hPair)) hNames,
    findSome?_merged _ (merged_nodup _ _)]
  obtain ⟨first, rest, hMerged, hFirst⟩ := @names_merged _ _ _ _ after jar h hBefore
  have hSession : valueHeld (merged (before ++ mine :: after) jar)
      (sessionCookieName configured) = some token.raw.toList := by
    rw [valueHeld_session h (sessionCookieName_ne_nil configured), valueOfPair_session,
      valueSent_of_ne (by simpa using hBefore)]
    rfl
  have hLegacy (hMem : LEGACY_SESSION_COOKIE_NAME ∈ before.map fun cookie => cookie.name) :
      valueHeld (merged (before ++ mine :: after) jar) LEGACY_SESSION_COOKIE_NAME =
        valueSent LEGACY_SESSION_COOKIE_NAME
          ((before ++ after ++ jar).map Cookie.toCookiePair) := by
    obtain ⟨cookie, hCookie, hSame⟩ := List.mem_map.mp hMem
    have hOther : sessionCookieName configured ≠ LEGACY_SESSION_COOKIE_NAME := by
      rw [← hSame]
      exact (hBefore cookie hCookie).symm
    have hNone : valueOfPair LEGACY_SESSION_COOKIE_NAME
        ⟨sessionCookieName configured, token.raw.toList⟩ = none := by
      simp [valueOfPair, hOther]
    rw [valueHeld_session h LEGACY_SESSION_COOKIE_NAME_ok.2, hNone, Option.none_or,
      List.append_assoc, ← valueSent_append, ← List.map_append]
  have hEarlier : (first.findSome? fun name =>
      if name ∈ sessionNames configured
      then valueHeld (merged (before ++ mine :: after) jar) name else none) =
        if LEGACY_SESSION_COOKIE_NAME ∈ before.map fun cookie => cookie.name
        then valueHeld (merged (before ++ mine :: after) jar) LEGACY_SESSION_COOKIE_NAME
        else none := by
    have hOnly : ∀ name ∈ first, (if name ∈ sessionNames configured
        then valueHeld (merged (before ++ mine :: after) jar) name else none) =
          if LEGACY_SESSION_COOKIE_NAME = name
          then valueHeld (merged (before ++ mine :: after) jar) name else none := by
      intro name hMem
      have hOther : name ≠ sessionCookieName configured := by
        rintro rfl
        rw [hFirst _ (sessionCookieName_ne_nil configured)] at hMem
        obtain ⟨cookie, hCookie, hSame⟩ := List.mem_map.mp hMem
        exact hBefore cookie hCookie hSame
      simp only [mem_sessionNames, hOther, false_or, eq_comm]
    rw [← List.head?_filterMap, List.filterMap_congr hOnly, List.head?_filterMap, findSome?_named]
    simp only [hFirst _ LEGACY_SESSION_COOKIE_NAME_ok.2]
  rw [hMerged, List.findSome?_append, List.findSome?_cons,
    if_pos (mem_sessionNames.mpr (.inl rfl)), hSession, hEarlier]
  split_ifs with hMem
  · rw [hLegacy hMem]
    cases valueSent LEGACY_SESSION_COOKIE_NAME _ <;> rfl
  · rfl

/-- The token comes back exactly if no other token has been sent before it under the name that
the service also knows, and reading a header throws exactly if the first value under the names
is malformed. -/
theorem session_token_survives_iff (h : mine.toCookiePair = sessionPair configured token)
    (hOthers : ∀ cookie ∈ before ++ after, cookie.name ≠ sessionCookieName configured) :
    (readSessionToken configured (resolveCookieHeaderForProxy
        (some (cookieHeader (before ++ mine :: after))) (jar.map Cookie.toCookiePair)) =
      .ok (some token.raw.toList) ↔
      (LEGACY_SESSION_COOKIE_NAME ∈ before.map (fun cookie => cookie.name) →
        ∀ value ∈ valueSent LEGACY_SESSION_COOKIE_NAME
            ((before ++ after ++ jar).map Cookie.toCookiePair),
          Js.decodeURIComponent value = some token.raw.toList)) ∧
    ∀ header, ((∃ answer, readSessionToken configured header = .ok answer) ↔
        ∀ text ∈ header, ∀ value, FirstValue (sessionNames configured) text value →
          Js.decodeURIComponent value ≠ none) ∧
      ((∃ answer, readCsrfCookie configured header = .ok answer) ↔
        ∀ text ∈ header, ∀ value, FirstValue [csrfCookieName configured] text value →
          Js.decodeURIComponent value ≠ none) := by
  refine ⟨?_, fun header => ⟨readCookie_isOk, readCookie_isOk⟩⟩
  rw [readSessionToken, readCookie, valueUnder_forwarded h hOthers]
  by_cases hEarlier : LEGACY_SESSION_COOKIE_NAME ∈ before.map fun cookie => cookie.name
  · simp only [hEarlier, if_true, forall_const]
    cases valueSent LEGACY_SESSION_COOKIE_NAME
        ((before ++ after ++ jar).map Cookie.toCookiePair) with
    | none => simp [decodeURIComponent_token]
    | some value => cases hDecoded : Js.decodeURIComponent value <;> simp [hDecoded]
  · simp [hEarlier, decodeURIComponent_token]

end Token

namespace Sample

def sentToken : SessionToken where
  raw := String.ofList (List.replicate 43 'a')
  base64url := by decide
  length := by decide

def named : Option Text := some "sid".toList

def sessionCookie : Cookie where
  toCookiePair := sessionPair named sentToken
  name_ok := by decide
  name_trimmed := by decide
  value_ok := by decide

/-- A cookie that is left from a time with no configured name. -/
def leftCookie : Cookie where
  name := LEGACY_SESSION_COOKIE_NAME
  value := "stale".toList
  name_ok := by decide
  name_trimmed := by decide
  value_ok := by decide

end Sample

/-- A session cookie among others gets through the proxy. -/
theorem session_token_survives_last :
    readSessionToken Sample.named (resolveCookieHeaderForProxy
        (some (cookieHeader ([] ++ Sample.sessionCookie :: [Sample.leftCookie]))) []) =
      .ok (some Sample.sentToken.raw.toList) := by
  have hOthers : ∀ cookie ∈ [] ++ [Sample.leftCookie],
      cookie.name ≠ sessionCookieName Sample.named := by
    intro cookie hMem
    obtain rfl := List.mem_singleton.mp hMem
    decide
  have hSurvives := @session_token_survives_iff Sample.named Sample.sentToken
    Sample.sessionCookie [] [Sample.leftCookie] [] rfl hOthers
  exact hSurvives.1.mpr (by simp)

/-- A left cookie comes back in place of the token, and a percent sign makes both readers
throw. -/
theorem left_cookie_comes_back :
    Sample.sessionCookie.toCookiePair = sessionPair Sample.named Sample.sentToken ∧
    Sample.leftCookie.name ≠ sessionCookieName Sample.named ∧
    readSessionToken Sample.named (resolveCookieHeaderForProxy
        (some (cookieHeader [Sample.leftCookie, Sample.sessionCookie])) []) =
      .ok (some "stale".toList) ∧
    "stale".toList ≠ Sample.sentToken.raw.toList ∧
    readSessionToken none (some "chhata_session=%".toList) = .error .malformed ∧
    readCsrfCookie none (some "csrf_token=%".toList) = .error .malformed := by
  refine ⟨rfl, ?_, ?_, ?_, ?_, ?_⟩
  all_goals decide

end PropertyTax.Http

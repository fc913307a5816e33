import MeetingGateway.Urls
import MeetingGateway.CreationResponses

/-!
# The host of a start URL

The parser of a creation response takes a start URL whose host, as `urlsplit` finds it, is a
trusted suffix or ends in a dot and one. A browser that opens the URL agrees unless a
backslash ends the authority before that.
-/

namespace MeetingGateway

open TextCuts

/-- A trusted suffix or a subdomain of one. -/
def TrustedHost (suffixes : List String) (host : List Char) : Prop :=
  ∃ suffix ∈ suffixes, ∃ front, UpToDot front ∧
    host.map Char.toLower = front ++ suffix.toList.map Char.toLower

/-- `urlsplit` finds no userinfo and a trusted host. -/
def TrustedBySplit (lib : UrlLibrary) (suffixes : List String) (url : String) : Prop :=
  ∃ parsed host, urlsplit lib url = .ok parsed ∧ parsed.username = none ∧
    parsed.password = none ∧ parsed.hostname = some host ∧ TrustedHost suffixes host.toList

/-- What a browser contacts is a trusted host, without userinfo. -/
def TrustedByBrowser (browser : BrowserHosts) (suffixes : List String) (url : String) : Prop :=
  ∀ reading, browserReading browser url = some reading →
    reading.userinfo = none ∧ TrustedHost suffixes reading.host

/-- No backslash ends the authority (leading ones do not), or what stands before it is a trusted
host or none. -/
def BackslashHarmless (browser : BrowserHosts) (suffixes : List String) (url : String) : Prop :=
  let authority := (netlocOf url).dropWhile (· = '\\')
  '\\' ∉ authority ∨
    ∀ host, browserHost browser (beforeFirst '\\' authority) = some host →
      TrustedHost suffixes host

/-- The settings with Python's `urlsplit`. -/
def Settings.splitting (cfg : Settings) (lib : UrlLibrary) : Settings :=
  { cfg with urlsplit := MeetingGateway.urlsplit lib }

section Names
variable {name labels : List Char}

theorem DnsName.chars (h : DnsName name) : ∀ c ∈ name, c.isAlphanum = true ∨ c = '-' ∨ c = '.' := by
  induction h with
  | top hlabel _ =>
    intro c hc
    rcases hlabel.chars c hc with hc | hc
    · exact Or.inl hc
    · exact Or.inr (Or.inl hc)
  | sub hlabel _ ih =>
    intro c hc
    rcases List.mem_append.mp hc with hc | hc
    · rcases hlabel.chars c hc with hc | hc
      · exact Or.inl hc
      · exact Or.inr (Or.inl hc)
    · rcases List.mem_cons.mp hc with rfl | hc
      · exact Or.inr (Or.inr rfl)
      · exact ih c hc

theorem DnsName.ne_nil (h : DnsName name) : name ≠ [] := by
  cases h with
  | top hlabel _ => exact hlabel.nonempty
  | sub _ _ => simp

theorem isAlpha_codes {c : Char} (h : c.isAlpha = true) :
    (65 ≤ c.toNat ∧ c.toNat ≤ 90) ∨ (97 ≤ c.toNat ∧ c.toNat ≤ 122) := by
  have hcases : (decide (c.val ≥ 65 ∧ c.val ≤ 90) ||
      decide (c.val ≥ 97) && decide (c.val ≤ 122)) = true := h
  simp only [Bool.or_eq_true, Bool.and_eq_true, decide_eq_true_eq, ge_iff_le,
    UInt32.le_iff_toNat_le] at hcases
  exact hcases

theorem isDigit_codes {c : Char} (h : c.isDigit = true) : 48 ≤ c.toNat ∧ c.toNat ≤ 57 := by
  have hcases : (decide (c.val ≥ 48) && decide (c.val ≤ 57)) = true := h
  simp only [Bool.and_eq_true, decide_eq_true_eq, ge_iff_le, UInt32.le_iff_toNat_le] at hcases
  exact hcases

/-- The characters of a DNS name by their codes. -/
theorem DnsName.codes (h : DnsName name) {c : Char} (hc : c ∈ name) :
    (48 ≤ c.toNat ∧ c.toNat ≤ 57) ∨ (65 ≤ c.toNat ∧ c.toNat ≤ 90) ∨
      (97 ≤ c.toNat ∧ c.toNat ≤ 122) ∨ c.toNat = 45 ∨ c.toNat = 46 := by
  rcases h.chars c hc with hc | rfl | rfl
  · rcases Bool.or_eq_true_iff.mp hc with letter | digit
    · have hcode := isAlpha_codes letter
      omega
    · exact Or.inl (isDigit_codes digit)
  · decide
  · decide

/-- A character that is one letter with `x` is `x` up to case, or the sign of the Kelvin. -/
theorem SameLetter.codes {c x : Char} (h : SameLetter c x) :
    c.toNat = x.toNat ∨ (65 ≤ x.toNat ∧ x.toNat ≤ 90 ∧ c.toNat = x.toNat + 32) ∨
      (65 ≤ c.toNat ∧ c.toNat ≤ 90 ∧ x.toNat = c.toNat + 32) ∨
      (c.toNat = 8490 ∧ (x.toNat = 75 ∨ x.toNat = 107)) := by
  rcases h with h | ⟨rfl, h⟩
  · have hcode : c.toLower.toNat = x.toLower.toNat := congrArg Char.toNat h
    rcases toLower_cases c with ⟨_, hc⟩ | ⟨_, _, hc⟩
    · rcases toLower_cases x with ⟨_, hx⟩ | ⟨_, _, hx⟩
      · rw [hc, hx] at hcode
        omega
      · rw [hc] at hcode
        omega
    · rcases toLower_cases x with ⟨_, hx⟩ | ⟨_, _, hx⟩
      · rw [hx] at hcode
        omega
      · omega
  · have hcode : x.toLower.toNat = 107 := by
      rw [h]
      rfl
    rcases toLower_cases x with ⟨_, hx⟩ | ⟨_, _, hx⟩
    · rw [hx] at hcode
      exact Or.inr (Or.inr (Or.inr ⟨rfl, Or.inr hcode⟩))
    · exact Or.inr (Or.inr (Or.inr ⟨rfl, Or.inl (by omega)⟩))

theorem sameLetter_of_cased {c x : Char} (h : LowersChar c [x] ∨ [x] = [c]) (hx : x.toNat < 128) :
    SameLetter c x := by
  rcases h with h | h
  · cases h with
    | ascii _ => exact Or.inl (toLower_idem c).symm
    | kelvinSign => exact Or.inr ⟨rfl, rfl⟩
    | other _ _ hblock => exact absurd hx (not_lt.mpr (hblock x (List.mem_singleton_self x)))
  · cases h
    exact Or.inl rfl

theorem sameLetter_dot {c : Char} (h : SameLetter c '.') : c = '.' := by
  have hdot : '.'.toNat = 46 := rfl
  have hcode := h.codes
  refine Char.toNat_inj.mp ?_
  omega

/-- Characters that read as a DNS name are no separators. -/
theorem sameLetters_codes (hname : DnsName name) (h : List.Forall₂ SameLetter labels name) :
    ∀ c ∈ labels, 45 ≤ c.toNat ∧ c ≠ ':' ∧ c ≠ '[' ∧ c ≠ '\\' := by
  refine forall₂_left h ?_
  intro c x hx same
  have hcode := same.codes
  have hname := hname.codes hx
  refine ⟨by omega, ?_, ?_, ?_⟩
  · rintro rfl
    have : ':'.toNat = 58 := rfl
    omega
  · rintro rfl
    have : '['.toNat = 91 := rfl
    omega
  · rintro rfl
    have : '\\'.toNat = 92 := rfl
    omega

theorem sameLetter_alpha {c x : Char} (h : SameLetter c x) (hx : x.isAlpha = true) :
    c.isDigit = false := by
  have hcode := h.codes
  have hletter := isAlpha_codes hx
  by_contra hdigit
  have hdigit := isDigit_codes (by simpa using hdigit)
  omega

/-- The top label of a DNS name begins with a letter, after a dot or at the start. -/
theorem top_letter (hname : DnsName name) (h : List.Forall₂ SameLetter labels name) :
    ∃ front c back, '.' :: labels = front ++ '.' :: c :: back ∧ c.isDigit = false := by
  induction hname generalizing labels with
  | @top label hlabel hfirst =>
    cases h with
    | nil => exact absurd rfl hlabel.nonempty
    | @cons c x labels _ same _ =>
      exact ⟨[], c, labels, rfl, sameLetter_alpha same (by simpa using hfirst)⟩
  | @sub label name _ _ ih =>
    obtain ⟨first, rest, rfl, hrest⟩ :
        ∃ first rest, labels = first ++ rest ∧ List.Forall₂ SameLetter rest ('.' :: name) :=
      ⟨_, _, (List.take_append_drop label.length labels).symm,
        List.forall₂_drop_append labels label ('.' :: name) h⟩
    cases hrest with
    | @cons dot x rest _ same hrest =>
      obtain rfl := sameLetter_dot same
      obtain ⟨front, c, back, hcut, hdigit⟩ := ih hrest
      exact ⟨'.' :: first ++ front, c, back, by simp [hcut], hdigit⟩

end Names

/-- The parts of an accepted URL, as lists of characters. -/
structure SplitPasses (lib : UrlLibrary) (suffixes : List String) (url : String) : Prop where
  https : (splitScheme (urlChars url)).1 = "https".toList
  balanced : '[' ∈ netlocOf url ↔ ']' ∈ netlocOf url
  plain : '@' ∉ netlocOf url
  trusted : ∃ suffix ∈ suffixes, ∃ host, hostname lib (netlocOf url) = some host ∧
    (host = suffix.toList ∨ ∃ front, host = front ++ '.' :: suffix.toList)

section Parser
variable {lib : UrlLibrary} {cfg : Settings} {url : String}

theorem splitScheme_lower (chars : List Char) :
    (splitScheme chars).1.map Char.toLower = (splitScheme chars).1 := by
  unfold splitScheme
  dsimp only
  split
  · rw [List.map_map]
    exact List.map_congr_left fun c _ => toLower_idem c
  · rfl

theorem urlsplit_ok {parsed : SplitResult} (h : urlsplit lib url = .ok parsed) :
    ('[' ∈ netlocOf url ↔ ']' ∈ netlocOf url) ∧
      parsed = {
        scheme := String.ofList (splitScheme (urlChars url)).1
        netloc := String.ofList (netlocOf url)
        hostname := (hostname lib (netlocOf url)).map String.ofList
        username := (username (netlocOf url)).map String.ofList
        password := (password (netlocOf url)).map String.ofList } := by
  unfold urlsplit at h
  dsimp only at h
  split at h
  · cases h
  · rename_i hbrackets
    cases h
    simp only [Bool.or_eq_true, not_or, bne_iff_ne, ne_eq, not_not, decide_eq_decide] at hbrackets
    exact ⟨hbrackets.1, rfl⟩

theorem username_none {netloc : List Char} : username netloc = none ↔ '@' ∉ netloc := by
  unfold username
  split
  · rename_i h
    simp [h]
  · rename_i h
    simp [h]

theorem trustedHost_split {host : String} (h : trustedHost cfg (some host) = true) :
    ∃ suffix ∈ cfg.convayTrustedHostSuffixes,
      host.toList = suffix.toList ∨ ∃ front, host.toList = front ++ '.' :: suffix.toList := by
  simp only [trustedHost, Bool.and_eq_true, decide_eq_true_eq, List.any_eq_true,
    Bool.or_eq_true] at h
  obtain ⟨_, suffix, hsuffix, heq | hend⟩ := h
  · exact ⟨suffix, hsuffix, Or.inl (by rw [heq])⟩
  · obtain ⟨front, hfront⟩ := List.isSuffixOf_iff_suffix.mp hend
    refine ⟨suffix, hsuffix, Or.inr ⟨front, ?_⟩⟩
    rw [← hfront]
    simp

theorem splitPasses_of_passes (h : StartUrlPasses (cfg.splitting lib) url) :
    SplitPasses lib cfg.convayTrustedHostSuffixes url := by
  obtain ⟨parsed, hsplit, htrusted⟩ := h.trusted
  obtain ⟨balanced, rfl⟩ := urlsplit_ok hsplit
  simp only [trustedUrl, Bool.and_eq_true, decide_eq_true_eq, Option.isNone_map,
    Option.isNone_iff_eq_none] at htrusted
  obtain ⟨⟨⟨⟨hscheme, _⟩, huser⟩, _⟩, hhost⟩ := htrusted
  refine ⟨?_, balanced, username_none.mp huser, ?_⟩
  · have hlist := congrArg String.toList hscheme
    simpa [lower, splitScheme_lower] using hlist
  · cases hname : hostname lib (netlocOf url) with
    | none =>
      rw [hname] at hhost
      cases hhost
    | some host =>
      rw [hname] at hhost
      obtain ⟨suffix, hsuffix, hends⟩ := trustedHost_split hhost
      exact ⟨suffix, hsuffix, host, rfl, by simpa using hends⟩

/-- `urlsplit`'s host comes character by character from the text of the host. -/
theorem hostname_blockwise {netloc host : List Char} (h : hostname lib netloc = some host) :
    Blockwise (fun c block => LowersChar c block ∨ block = [c]) (hostText netloc) host := by
  unfold hostname at h
  dsimp only at h
  split at h
  · cases h
  · cases h
    have hlow := (lib.lowers (beforeFirst '%' (hostText netloc))).mono
      (S := fun c block => LowersChar c block ∨ block = [c]) Or.inl
    have hzone := Blockwise.of_singletons (R := fun c block => LowersChar c block ∨ block = [c])
      (fun _ => Or.inr rfl) ((hostText netloc).dropWhile (· ≠ '%'))
    have hboth := hlow.append hzone
    rwa [beforeFirst, List.takeWhile_append_dropWhile] at hboth

theorem lowersChar_nonempty {c : Char} : ¬ (LowersChar c [] ∨ ([] : List Char) = [c]) := by
  rintro (h | h)
  · cases h with
    | other _ hne _ => exact hne rfl
  · cases h

/-- A block that ends in ASCII is one character. -/
theorem lowersChar_single {c x : Char} {front : List Char}
    (h : LowersChar c (front ++ [x]) ∨ front ++ [x] = [c]) (hx : x.toNat < 128) : front = [] := by
  rcases h with h | h
  · generalize hblock : front ++ [x] = block at h
    cases h with
    | ascii _ => exact (List.append_eq_singleton_iff.mp hblock).elim And.left (by simp)
    | kelvinSign => exact (List.append_eq_singleton_iff.mp hblock).elim And.left (by simp)
    | dottedI =>
      have hlast := congrArg List.getLast? hblock
      simp only [List.getLast?_concat] at hlast
      cases hlast
      exact absurd hx (by decide)
    | other _ _ hblocks =>
      exact absurd hx (not_lt.mpr (hblocks x (by simp [← hblock])))
  · exact (List.append_eq_singleton_iff.mp h).elim And.left (by simp)

/-- An ASCII end of the host comes from an end of its text that reads as the same letters. -/
theorem letters_end {netloc front name : List Char}
    (hhost : hostname lib netloc = some (front ++ name)) (ascii : ∀ x ∈ name, x.toNat < 128) :
    ∃ before labels, hostText netloc = before ++ labels ∧ (front = [] → before = []) ∧
      List.Forall₂ SameLetter labels name := by
  obtain ⟨before, labels, htext, hbefore, hlabels⟩ :=
    (hostname_blockwise hhost).plain_end (fun x => x.toNat < 128)
      lowersChar_nonempty lowersChar_single ascii
  refine ⟨before, labels, htext, ?_, ?_⟩
  · rintro rfl
    exact hbefore.eq_nil lowersChar_nonempty
  · rw [List.forall₂_iff_get] at hlabels ⊢
    exact ⟨hlabels.1, fun i hi hi' =>
      sameLetter_of_cased (hlabels.2 i hi hi') (ascii _ (List.get_mem _ _))⟩

theorem DnsName.ascii {name : List Char} (h : DnsName name) : ∀ x ∈ name, x.toNat < 128 := by
  intro x hx
  have := h.codes hx
  omega

/-- The text of an accepted host ends, from its start or after a dot, as a trusted suffix. -/
theorem trusted_end {suffixes : List String} (passes : SplitPasses lib suffixes url)
    (names : ∀ suffix ∈ suffixes, DnsName suffix.toList) :
    ∃ suffix ∈ suffixes, ∃ front labels, hostText (netlocOf url) = front ++ labels ∧
      UpToDot front ∧ List.Forall₂ SameLetter labels suffix.toList := by
  obtain ⟨suffix, hsuffix, host, hhost, rfl | ⟨front, rfl⟩⟩ := passes.trusted
  · have hwhole : hostname lib (netlocOf url) = some ([] ++ suffix.toList) := hhost
    obtain ⟨before, labels, htext, hbefore, hlabels⟩ :=
      letters_end hwhole (names suffix hsuffix).ascii
    exact ⟨suffix, hsuffix, before, labels, htext, Or.inl (hbefore rfl), hlabels⟩
  · have ascii : ∀ x ∈ '.' :: suffix.toList, x.toNat < 128 := by
      intro x hx
      rcases List.mem_cons.mp hx with rfl | hx
      · decide
      · exact (names suffix hsuffix).ascii x hx
    obtain ⟨before, labels, htext, _, hlabels⟩ := letters_end hhost ascii
    cases hlabels with
    | @cons dot _ labels _ same hlabels =>
      obtain rfl := sameLetter_dot same
      exact ⟨suffix, hsuffix, before ++ ['.'], labels, by simp [htext], Or.inr ⟨before, rfl⟩,
        hlabels⟩

end Parser

section Reading
variable {url : String} {chars tail : List Char}

/-- The browser reads what `urlsplit` reads, without the control characters at the end. -/
theorem urlChars_browser (url : String) :
    ∃ tail, urlChars url = browserChars url ++ tail ∧
      ∀ c ∈ tail, c0ControlOrSpace c = true := by
  refine ⟨((url.toList.dropWhile c0ControlOrSpace).rtakeWhile c0ControlOrSpace).filter
    fun c => !unsafeUrlByte c, ?_, ?_⟩
  · rw [urlChars, browserChars, ← List.filter_append, List.rdropWhile_append_rtakeWhile]
  · intro c hc
    exact List.mem_rtakeWhile_imp (List.mem_of_mem_filter hc)

theorem notMem_tail {sep : Char} (htail : ∀ c ∈ tail, c0ControlOrSpace c = true)
    (hsep : c0ControlOrSpace sep = false) : sep ∉ tail := by
  intro hmem
  rw [htail sep hmem] at hsep
  cases hsep

theorem splitScheme_append (found : (splitScheme (chars ++ tail)).1 ≠ [])
    (htail : ∀ c ∈ tail, c0ControlOrSpace c = true) :
    (splitScheme chars).1 = (splitScheme (chars ++ tail)).1 ∧
      (splitScheme (chars ++ tail)).2 = (splitScheme chars).2 ++ tail := by
  have hcolon : ':' ∈ chars ++ tail := by
    by_contra habsent
    simp [splitScheme, habsent] at found
  have hchars : ':' ∈ chars :=
    (List.mem_append.mp hcolon).resolve_right (notMem_tail htail (by decide))
  obtain ⟨rest, hcut⟩ := exists_cut hchars
  generalize hscheme : beforeFirst ':' chars = scheme at hcut
  have hfree : ':' ∉ scheme := hscheme ▸ notMem_beforeFirst
  subst hcut
  have hlong : scheme ++ ':' :: rest ++ tail = scheme ++ ':' :: (rest ++ tail) := by simp
  rw [hlong] at found ⊢
  simp only [splitScheme, beforeFirst_append_sep hfree, afterFirst_append_sep hfree,
    List.mem_append, List.mem_cons_self, or_true, decide_true, Bool.true_and] at found ⊢
  split
  · exact ⟨rfl, rfl⟩
  · rename_i hbad
    rw [if_neg hbad] at found
    exact absurd rfl found

theorem splitNetloc_nonempty {rest : List Char} (h : splitNetloc rest ≠ []) :
    ∃ more, rest = '/' :: '/' :: more ∧
      splitNetloc rest = more.takeWhile fun c => !endsNetloc c := by
  unfold splitNetloc at h ⊢
  split at h
  · exact ⟨_, rfl, rfl⟩
  · exact absurd rfl h

/-- Behind the slashes and backslashes that the browser skips, the netloc goes on without its
leading backslashes. -/
theorem dropWhile_slashes {rest : List Char}
    (hcore : (splitNetloc rest).dropWhile (· = '\\') ≠ []) :
    ∃ ending, rest.dropWhile isSlash = (splitNetloc rest).dropWhile (· = '\\') ++ ending ∧
      ending.takeWhile (fun c => !endsAuthority c) = [] := by
  have hnonempty : splitNetloc rest ≠ [] := by
    intro h
    rw [h] at hcore
    exact hcore rfl
  obtain ⟨more, rfl, hnetloc⟩ := splitNetloc_nonempty hnonempty
  rw [hnetloc] at hcore ⊢
  refine ⟨more.dropWhile fun c => !endsNetloc c, ?_, ?_⟩
  · have hmore := List.takeWhile_append_dropWhile (p := fun c => !endsNetloc c) (l := more)
    have hinside : ∀ c ∈ more.takeWhile (fun c => !endsNetloc c), endsNetloc c = false := by
      intro c hc
      simpa using List.mem_takeWhile_imp hc
    generalize more.dropWhile (fun c => !endsNetloc c) = ending at hmore ⊢
    generalize more.takeWhile (fun c => !endsNetloc c) = netloc at hcore hmore hinside ⊢
    have hsplit := List.takeWhile_append_dropWhile (p := (· = '\\')) (l := netloc)
    have hskip : ∀ c ∈ '/' :: '/' :: netloc.takeWhile (· = '\\'), isSlash c = true := by
      intro c hc
      rcases List.mem_cons.mp hc with rfl | hc
      · rfl
      rcases List.mem_cons.mp hc with rfl | hc
      · rfl
      · simpa [isSlash] using Or.inr (List.mem_takeWhile_imp hc)
    have hstop : ∀ c core, netloc.dropWhile (· = '\\') = c :: core → isSlash c = false := by
      intro c core hrest
      have hne : netloc.dropWhile (· = '\\') ≠ [] := hrest ▸ List.cons_ne_nil c core
      have hhead := List.head_dropWhile_not (· = '\\') hne
      simp only [hrest, List.head_cons] at hhead
      have hc := hinside c (by rw [← hsplit, hrest]; simp)
      simp only [endsNetloc, Bool.or_eq_false_iff] at hc
      simp [isSlash, hhead, hc.1.1]
    rw [← hmore]
    nth_rewrite 1 [← hsplit]
    rw [List.append_assoc, ← List.cons_append, ← List.cons_append,
      List.dropWhile_append_of_pos hskip]
    cases hrest : netloc.dropWhile (· = '\\') with
    | nil => exact absurd hrest hcore
    | cons c core => simp [hstop c core hrest]
  · cases hends : more.dropWhile fun c => !endsNetloc c with
    | nil => rfl
    | cons c ending =>
      have hne : more.dropWhile (fun c => !endsNetloc c) ≠ [] := hends ▸ List.cons_ne_nil c ending
      have hhead := List.head_dropWhile_not (fun c => !endsNetloc c) hne
      simp only [hends, List.head_cons, Bool.not_eq_false'] at hhead
      simp [endsAuthority, hhead]

theorem splitNetloc_inside {rest : List Char} : ∀ c ∈ splitNetloc rest, endsNetloc c = false := by
  unfold splitNetloc
  split
  · intro c hc
    simpa using List.mem_takeWhile_imp hc
  · simp

/-- In the whole text, the browser's authority is the netloc after its leading backslashes, up to
the next one. -/
theorem takeWhile_authority {core ending : List Char} (hcore : ∀ c ∈ core, endsNetloc c = false)
    (hending : ending.takeWhile (fun c => !endsAuthority c) = []) :
    (core ++ ending).takeWhile (fun c => !endsAuthority c) = beforeFirst '\\' core := by
  by_cases hback : '\\' ∈ core
  · obtain ⟨after, hcut⟩ := exists_cut hback
    have hpass : ∀ c ∈ beforeFirst '\\' core, (!endsAuthority c) = true := by
      intro c hc
      have hc' : c ∈ core := List.takeWhile_subset _ hc
      simpa [endsAuthority, hcore c hc'] using ne_of_mem_of_not_mem hc notMem_beforeFirst
    nth_rewrite 1 [hcut]
    rw [List.append_assoc, List.takeWhile_append_of_pos hpass]
    simp [endsAuthority]
  · have hpass : ∀ c ∈ core, (!endsAuthority c) = true := by
      intro c hc
      simpa [endsAuthority, hcore c hc] using ne_of_mem_of_not_mem hc hback
    rw [List.takeWhile_append_of_pos hpass, hending, List.append_nil, beforeFirst_of_notMem hback]

/-- The authority the browser reads, up to control characters at the end of the URL. -/
theorem browserAuthority_eq (https : (splitScheme (urlChars url)).1 = "https".toList)
    (hcore : (netlocOf url).dropWhile (· = '\\') ≠ []) :
    (splitScheme (browserChars url)).1 = "https".toList ∧ ∃ part,
      beforeFirst '\\' ((netlocOf url).dropWhile (· = '\\')) =
        browserAuthority (splitScheme (browserChars url)).2 ++ part ∧
      (∀ c ∈ part, c0ControlOrSpace c = true) ∧
      ('\\' ∈ (netlocOf url).dropWhile (· = '\\') → part = []) := by
  obtain ⟨tail, hchars, htail⟩ := urlChars_browser url
  have found : (splitScheme (browserChars url ++ tail)).1 ≠ [] := by
    rw [← hchars, https]
    decide
  obtain ⟨hscheme, hrest⟩ := splitScheme_append found htail
  have hslash : ∀ c ∈ tail, isSlash c = false := by
    intro c hc
    by_contra hs
    simp only [isSlash, Bool.not_eq_false, Bool.or_eq_true, decide_eq_true_eq] at hs
    rcases hs with rfl | rfl
    · exact notMem_tail htail (by decide) hc
    · exact notMem_tail htail (by decide) hc
  refine ⟨by rw [hscheme, ← hchars, https], ?_⟩
  obtain ⟨ending, hdrop, hending⟩ := dropWhile_slashes hcore
  have hinside : ∀ c ∈ (netlocOf url).dropWhile (· = '\\'), endsNetloc c = false :=
    fun c hc => splitNetloc_inside c (List.dropWhile_subset _ hc)
  have hwhole := takeWhile_authority hinside hending
  rw [netlocOf, ← hdrop, hchars, hrest, dropWhile_append_tail hslash] at hwhole
  obtain ⟨part, hpart, hsub, hstop⟩ := takeWhile_append_tail (fun c => !endsAuthority c)
    ((splitScheme (browserChars url)).2.dropWhile isSlash) tail
  refine ⟨part, ?_, fun c hc => htail c (hsub c hc), ?_⟩
  · rw [netlocOf, hchars, hrest, ← hwhole, hpart, browserAuthority]
  · intro hback
    refine hstop ⟨'\\', ?_, by decide⟩
    have hmem : '\\' ∈ (splitScheme (browserChars url)).2.dropWhile isSlash ++ tail := by
      rw [← dropWhile_append_tail hslash, ← hrest, ← hchars, hdrop]
      exact List.mem_append_left _ hback
    exact (List.mem_append.mp hmem).resolve_right (notMem_tail htail (by decide))

/-- A host and a port make up the text they were split from. -/
theorem splitPort_text (inside : Bool) (text : List Char) :
    ∃ rest, text = (splitPort inside text).1 ++ rest ∧
      (rest = [] ∨ ∃ port, (splitPort inside text).2 = some port ∧ rest = ':' :: port) := by
  induction text generalizing inside with
  | nil => exact ⟨[], rfl, Or.inl rfl⟩
  | cons c rest ih =>
    rw [splitPort]
    split
    · rename_i h
      simp only [Bool.and_eq_true, decide_eq_true_eq] at h
      exact ⟨c :: rest, rfl, Or.inr ⟨rest, rfl, by rw [h.1]⟩⟩
    · obtain ⟨port, htext, hport⟩ :=
        ih (if c = '[' then true else if c = ']' then false else inside)
      refine ⟨port, ?_, hport⟩
      rw [List.cons_append, ← htext]

/-- Without brackets the port starts at the first colon. -/
theorem splitPort_plain {text : List Char} (h : '[' ∉ text) :
    (splitPort false text).1 = beforeFirst ':' text := by
  induction text with
  | nil => rfl
  | cons c rest ih =>
    simp only [List.mem_cons, not_or] at h
    by_cases hcolon : c = ':'
    · simp [splitPort, beforeFirst, hcolon]
    · have hopen : c ≠ '[' := fun hc => h.1 hc.symm
      simp [splitPort, beforeFirst, hcolon, hopen, ih h.2]

/-- A bracket in an authority that is not refused belongs to its host. -/
theorem browserHost_bracket {browser : BrowserHosts} {hostport host : List Char}
    (hhost : browserHost browser hostport = some host) (hopen : '[' ∈ hostport) :
    ∃ address rest, hostport = '[' :: address ++ ']' :: rest ∧ ':' ∈ address ∧ ']' ∉ address ∧
      ∀ front c back, address = front ++ '.' :: c :: back → c.isDigit = true := by
  obtain ⟨rest, htext, hrest⟩ := splitPort_text false hostport
  unfold browserHost at hhost
  dsimp only at hhost
  split at hhost
  · rename_i hpass
    simp only [Bool.and_eq_true] at hpass
    have hmem : '[' ∈ (splitPort false hostport).1 := by
      rw [htext] at hopen
      refine (List.mem_append.mp hopen).resolve_right ?_
      rcases hrest with rfl | ⟨port, hport, rfl⟩
      · simp
      · intro hopen
        rw [hport] at hpass
        have hdigits : port.all Char.isDigit = true := (Bool.and_eq_true_iff.mp hpass.2).1
        have hclose := (List.mem_cons.mp hopen).resolve_left (by decide)
        exact absurd (List.all_eq_true.mp hdigits _ hclose) (by decide)
    obtain ⟨address, haddress, hcolon, hclosed, hdots⟩ := browser.literal hmem hhost
    refine ⟨address, rest, ?_, hcolon, hclosed, hdots⟩
    rw [htext, haddress]
    simp
  · cases hhost

theorem browserHost_plain {browser : BrowserHosts} {hostport host : List Char}
    (hhost : browserHost browser hostport = some host) (hopen : '[' ∉ hostport) :
    browser.parseHost (beforeFirst ':' hostport) = some host := by
  unfold browserHost at hhost
  dsimp only at hhost
  split at hhost
  · rwa [splitPort_plain hopen] at hhost
  · cases hhost

end Reading

section Soundness
variable {lib : UrlLibrary} {suffixes : List String} {url : String}

theorem UpToDot.lower {front : List Char} (h : UpToDot front) :
    UpToDot (front.map Char.toLower) := by
  rcases h with rfl | ⟨front, rfl⟩
  · exact Or.inl rfl
  · exact Or.inr ⟨front.map Char.toLower, by simp⟩

theorem trustedBySplit_of_passes (passes : SplitPasses lib suffixes url)
    (accepted : ∃ parsed, urlsplit lib url = .ok parsed) : TrustedBySplit lib suffixes url := by
  obtain ⟨parsed, hsplit⟩ := accepted
  obtain ⟨suffix, hsuffix, host, hhost, hends⟩ := passes.trusted
  obtain ⟨_, rfl⟩ := urlsplit_ok hsplit
  have huser : username (netlocOf url) = none := username_none.mpr passes.plain
  have hpassword : password (netlocOf url) = none := by
    simp [password, passes.plain]
  refine ⟨_, String.ofList host, hsplit, by simp [huser], by simp [hpassword], by simp [hhost],
    suffix, hsuffix, ?_⟩
  rw [String.toList_ofList]
  rcases hends with rfl | ⟨front, rfl⟩
  · exact ⟨[], Or.inl rfl, rfl⟩
  · refine ⟨front.map Char.toLower ++ ['.'], Or.inr ⟨_, rfl⟩, ?_⟩
    have hdot : '.'.toLower = '.' := rfl
    simp [hdot]

theorem hostText_subset (netloc : List Char) : ∀ c ∈ hostText netloc, c ∈ netloc := by
  intro c hc
  refine (List.rtakeWhile_suffix (· ≠ '@') netloc).subset ?_
  unfold hostText at hc
  dsimp only at hc
  split at hc
  · have hinner := List.takeWhile_subset _ hc
    exact List.dropWhile_subset _ ((List.drop_subset 1 _) hinner)
  · exact List.takeWhile_subset _ hc

/-- The netloc of an accepted URL does not consist of backslashes. -/
theorem core_nonempty {front labels name : List Char} (hname : DnsName name)
    (htext : hostText (netlocOf url) = front ++ labels)
    (hlabels : List.Forall₂ SameLetter labels name) :
    (netlocOf url).dropWhile (· = '\\') ≠ [] := by
  intro hempty
  cases hlabels with
  | nil => exact hname.ne_nil rfl
  | @cons c x labels name' same hlabels =>
    have hcodes := sameLetters_codes hname (.cons same hlabels) c List.mem_cons_self
    have hmem : c ∈ netlocOf url := hostText_subset _ c (by simp [htext])
    have hback := List.dropWhile_eq_nil_iff.mp hempty c hmem
    simp only [decide_eq_true_eq] at hback
    exact hcodes.2.2.2 hback

/-- An IPv6 address does not end as a DNS name does. -/
theorem address_not_name {address front labels name : List Char} (hname : DnsName name)
    (hcolon : ':' ∈ address)
    (hdots : ∀ front c back, address = front ++ '.' :: c :: back → c.isDigit = true)
    (htext : address = front ++ labels) (hfront : UpToDot front) :
    ¬ List.Forall₂ SameLetter labels name := by
  intro hlabels
  rcases hfront with rfl | ⟨front, rfl⟩
  · rw [htext] at hcolon
    exact (sameLetters_codes hname hlabels ':' hcolon).2.1 rfl
  · obtain ⟨before, c, back, hcut, hdigit⟩ := top_letter hname hlabels
    have haddress : address = front ++ before ++ '.' :: c :: back := by
      rw [htext, List.append_assoc, List.singleton_append, hcut, List.append_assoc]
    rw [hdots _ _ _ haddress] at hdigit
    cases hdigit

/-- Without the backslashes before it, a host text ends as it did with them. -/
theorem ends_without_slashes {slashes text front labels name : List Char} (hname : DnsName name)
    (hslashes : ∀ c ∈ slashes, c = '\\') (htext : slashes ++ text = front ++ labels)
    (hfront : UpToDot front) (hlabels : List.Forall₂ SameLetter labels name) :
    ∃ front', text = front' ++ labels ∧ UpToDot front' := by
  rcases List.append_eq_append_iff.mp htext with ⟨part, rfl, hcut⟩ | ⟨part, rfl, hcut⟩
  · refine ⟨part, hcut, ?_⟩
    rcases part.eq_nil_or_concat with rfl | ⟨part, c, rfl⟩
    · exact Or.inl rfl
    · rcases hfront with hempty | ⟨front, hfront⟩
      · simp at hempty
      · have hlast := congrArg List.getLast? hfront
        simp only [List.concat_eq_append, ← List.append_assoc, List.getLast?_concat] at hlast
        cases hlast
        exact Or.inr ⟨part, by simp⟩
  · cases part with
    | nil => exact ⟨[], by simpa using hcut.symm, Or.inl rfl⟩
    | cons c part =>
      have hc := hslashes c (by simp)
      exact absurd hc (sameLetters_codes hname hlabels c (by simp [hcut])).2.2.2

/-- No control character follows a name at the end. -/
theorem tail_of_name {text part front labels name : List Char} (hname : DnsName name)
    (htext : text ++ part = front ++ labels) (hlabels : List.Forall₂ SameLetter labels name)
    (hpart : ∀ c ∈ part, c0ControlOrSpace c = true) : part = [] := by
  have hcodes := sameLetters_codes hname hlabels
  have hnonempty : labels ≠ [] := by
    rintro rfl
    cases hlabels
    exact hname.ne_nil rfl
  obtain ⟨labels, last, rfl⟩ := List.eq_nil_or_concat labels |>.resolve_left hnonempty
  rcases part.eq_nil_or_concat with rfl | ⟨part, c, rfl⟩
  · rfl
  · have hlast := congrArg List.getLast? htext
    simp only [List.concat_eq_append, ← List.append_assoc, List.getLast?_concat] at hlast
    cases hlast
    have hcontrol := hpart last (by simp)
    have hcode := (hcodes last (by simp)).1
    simp only [c0ControlOrSpace, decide_eq_true_eq] at hcontrol
    omega

/-- Where no backslash ends the authority, the browser contacts what `urlsplit` found. -/
theorem browser_agrees {browser : BrowserHosts} {host part authority : List Char}
    (passes : SplitPasses lib suffixes url) (names : ∀ suffix ∈ suffixes, DnsName suffix.toList)
    (hauthority : (netlocOf url).dropWhile (· = '\\') = authority ++ part)
    (hpart : ∀ c ∈ part, c0ControlOrSpace c = true)
    (hhost : browserHost browser authority = some host) : TrustedHost suffixes host := by
  obtain ⟨suffix, hsuffix, front, labels, htext, hfront, hlabels⟩ := trusted_end passes names
  have hname := names suffix hsuffix
  have hnetloc : netlocOf url = (netlocOf url).takeWhile (· = '\\') ++ (authority ++ part) := by
    rw [← hauthority, List.takeWhile_append_dropWhile]
  have hslashes : ∀ c ∈ (netlocOf url).takeWhile (· = '\\'), c = '\\' := by
    intro c hc
    simpa using List.mem_takeWhile_imp hc
  generalize (netlocOf url).takeWhile (· = '\\') = slashes at hnetloc hslashes
  have hclosed : ∀ sep, sep ≠ '\\' → sep ∉ slashes :=
    fun sep hsep hmem => hsep (hslashes sep hmem)
  by_cases hopen : '[' ∈ authority
  · obtain ⟨address, rest, hcut, hcolon, hinner, hdots⟩ := browserHost_bracket hhost hopen
    have haddress : hostText (netlocOf url) = address := by
      have hbracket : '[' ∈ netlocOf url := by simp [hnetloc, hcut]
      rw [hostText, afterLast_of_notMem passes.plain, if_pos hbracket, hnetloc, hcut]
      have hshape : slashes ++ ('[' :: address ++ ']' :: rest ++ part) =
          slashes ++ '[' :: (address ++ ']' :: (rest ++ part)) := by simp
      rw [hshape, afterFirst_append_sep (hclosed _ (by decide)), beforeFirst_append_sep hinner]
    exact absurd hlabels (address_not_name hname hcolon hdots (haddress ▸ htext) hfront)
  · have hbracket : '[' ∉ netlocOf url := by
      rw [hnetloc]
      simp only [List.mem_append, not_or]
      exact ⟨hclosed _ (by decide), hopen, notMem_tail hpart (by decide)⟩
    have hplain : hostText (netlocOf url) = slashes ++ beforeFirst ':' (authority ++ part) := by
      rw [hostText, afterLast_of_notMem passes.plain, if_neg hbracket]
      nth_rewrite 1 [hnetloc]
      exact beforeFirst_append (hclosed _ (by decide))
    rw [hplain] at htext
    obtain ⟨front, hends, hfront⟩ := ends_without_slashes hname hslashes htext hfront hlabels
    have hhostText : beforeFirst ':' authority = front ++ labels := by
      by_cases hcolon : ':' ∈ authority
      · obtain ⟨rest, hcut⟩ := exists_cut hcolon
        rw [hcut, List.append_assoc, List.cons_append,
          beforeFirst_append_sep notMem_beforeFirst] at hends
        exact hends
      · rw [beforeFirst_append hcolon] at hends
        rw [beforeFirst_of_notMem hcolon]
        rw [beforeFirst_of_notMem (notMem_tail hpart (by decide))] at hends
        rw [tail_of_name hname hends hlabels hpart, List.append_nil] at hends
        exact hends
    have hparse := browserHost_plain hhost hopen
    rw [hhostText] at hparse
    have hfree : '[' ∉ front := by
      intro hmem
      refine hopen (List.takeWhile_subset (· ≠ ':') ?_)
      rw [← beforeFirst, hhostText]
      exact List.mem_append_left _ hmem
    obtain ⟨front', hfront', rfl⟩ := browser.domain hname hlabels hfront hfree hparse
    refine ⟨suffix, hsuffix, front'.map Char.toLower, hfront'.lower, ?_⟩
    rw [List.map_append, List.map_map]
    exact congrArg _ (List.map_congr_left fun c _ => toLower_idem c)

/-- The browser opens an accepted URL as its authority says, without userinfo. -/
theorem browserReading_eq (browser : BrowserHosts) (passes : SplitPasses lib suffixes url)
    (names : ∀ suffix ∈ suffixes, DnsName suffix.toList) :
    ∃ authority part,
      beforeFirst '\\' ((netlocOf url).dropWhile (· = '\\')) = authority ++ part ∧
      (∀ c ∈ part, c0ControlOrSpace c = true) ∧
      ('\\' ∈ (netlocOf url).dropWhile (· = '\\') → part = []) ∧
      browserReading browser url =
        (browserHost browser authority).map fun host => ⟨none, host⟩ := by
  obtain ⟨suffix, hsuffix, front, labels, htext, _, hlabels⟩ := trusted_end passes names
  obtain ⟨hscheme, part, hauthority, hpart, hstop⟩ :=
    browserAuthority_eq passes.https (core_nonempty (names suffix hsuffix) htext hlabels)
  refine ⟨_, part, hauthority, hpart, hstop, ?_⟩
  have hplain : '@' ∉ browserAuthority (splitScheme (browserChars url)).2 := by
    intro hmem
    have hcore : '@' ∈ beforeFirst '\\' ((netlocOf url).dropWhile (· = '\\')) := by
      rw [hauthority]
      exact List.mem_append_left _ hmem
    exact passes.plain (List.dropWhile_subset _ (List.takeWhile_subset _ hcore))
  unfold browserReading
  dsimp only
  rw [if_pos hscheme, if_neg hplain]

/-- For every accepted start URL the two readings are sound exactly if no backslash ends the
authority before the trusted host, or what stands before it is harmless. -/
theorem trusted_host_sound_iff (browser : BrowserHosts) {cfg : Settings} {body : JsonObject}
    {result : ProviderMeetingResult}
    (names : ∀ suffix ∈ cfg.convayTrustedHostSuffixes, DnsName suffix.toList)
    (accepted : parseMeeting (cfg.splitting lib) body = .ok result)
    (stored : result.startMeetingUrl = some url) :
    (TrustedBySplit lib cfg.convayTrustedHostSuffixes url ∧
        TrustedByBrowser browser cfg.convayTrustedHostSuffixes url) ↔
      BackslashHarmless browser cfg.convayTrustedHostSuffixes url := by
  obtain ⟨data, grammar⟩ := parseMeeting_ok_iff.mp accepted
  obtain ⟨raw, _, startUrl, hstored⟩ := grammar.startUrl
  rw [← Option.some.inj (stored.symm.trans hstored)] at startUrl
  have passes := splitPasses_of_passes startUrl
  have split : TrustedBySplit lib cfg.convayTrustedHostSuffixes url := by
    obtain ⟨parsed, hsplit, _⟩ := startUrl.trusted
    exact trustedBySplit_of_passes passes ⟨parsed, hsplit⟩
  rw [and_iff_right split]
  obtain ⟨authority, part, hauthority, hpart, hstop, hreading⟩ :=
    browserReading_eq browser passes names
  rw [TrustedByBrowser, hreading, BackslashHarmless]
  constructor
  · intro sound
    by_cases hback : '\\' ∈ (netlocOf url).dropWhile (· = '\\')
    · refine Or.inr fun host hhost => ?_
      rw [hauthority, hstop hback, List.append_nil] at hhost
      exact (sound ⟨none, host⟩ (by rw [hhost, Option.map_some])).2
    · exact Or.inl hback
  · intro harmless reading hread
    obtain ⟨host, hhost, rfl⟩ := Option.map_eq_some_iff.mp hread
    refine ⟨rfl, ?_⟩
    by_cases hback : '\\' ∈ (netlocOf url).dropWhile (· = '\\')
    · refine harmless.resolve_left (fun habsent => habsent hback) host ?_
      rwa [hauthority, hstop hback, List.append_nil]
    · rw [beforeFirst_of_notMem hback] at hauthority
      exact browser_agrees passes names hauthority hpart hhost

end Soundness

theorem lowerOne_lowers (c : Char) : LowersChar c (lowerOne c) := by
  unfold lowerOne
  split
  · exact .ascii (by assumption)
  split
  · subst c
    exact .kelvinSign
  split
  · subst c
    exact .dottedI
  · rename_i hascii _ _
    exact .other (not_lt.mp hascii) (by simp) (by simpa using hascii)

/-- Lowers the letters and refuses nothing. -/
def exampleUrlLibrary : UrlLibrary where
  refuses := fun _ => false
  lowerText := fun text => text.flatMap lowerOne
  lowers := by
    intro text
    induction text with
    | nil => exact .nil
    | cons c text ih => exact .cons (lowerOne_lowers c) ih

def isHostChar (c : Char) : Bool := c.isAlphanum || c = '-' || c = '.'

def exampleBrowserHosts : BrowserHosts where
  parseHost := fun text => if text.all isHostChar then some (text.map Char.toLower) else none
  domain := by
    intro front labels name host hname hlabels hfront _ hparse
    clear hname
    split at hparse
    · rename_i hall
      obtain rfl := Option.some.inj hparse
      refine ⟨front.map Char.toLower, hfront.lower, ?_⟩
      rw [List.map_append]
      congr 1
      simp only [List.all_append, Bool.and_eq_true, List.all_eq_true] at hall
      obtain ⟨_, hall⟩ := hall
      clear hparse
      induction hlabels with
      | nil => rfl
      | @cons c x labels name same _ ih =>
        have hlower : c.toLower = x.toLower := by
          rcases same with same | ⟨rfl, _⟩
          · exact same
          · exact absurd (hall _ List.mem_cons_self) (by decide)
        rw [List.map_cons, List.map_cons, hlower, ih fun c hc => hall c (List.mem_cons_of_mem _ hc)]
    · cases hparse
  literal := by
    intro text host hopen hparse
    split at hparse
    · rename_i hall
      exact absurd (List.all_eq_true.mp hall '[' hopen) (by decide)
    · cases hparse

def exampleUrlSettings : Settings := exampleSettings.splitting exampleUrlLibrary

/-- A creation response with the given start URL. -/
def exampleStartBody (url : String) : JsonObject :=
  [("calendarId", .str "cal-1"), ("meetingPanelAddress", .str "meet.convay.com"),
    ("startMeetingUrl", .str url)]

/-- A label without hyphens. -/
theorem DnsLabel.of_alphanum {label : List Char} (nonempty : label ≠ [])
    (h : label.all Char.isAlphanum = true) : DnsLabel label where
  nonempty := nonempty
  chars := fun c hc => Or.inl (List.all_eq_true.mp h c hc)
  start := by
    intro hhead
    exact absurd (List.all_eq_true.mp h '-' (List.mem_of_mem_head? hhead)) (by decide)
  finish := by
    intro hlast
    exact absurd (List.all_eq_true.mp h '-' (List.mem_of_mem_getLast? hlast)) (by decide)

theorem exampleSuffixes_names :
    ∀ suffix ∈ exampleUrlSettings.convayTrustedHostSuffixes, DnsName suffix.toList := by
  intro suffix hsuffix
  have hconvay : suffix = "convay.com" := by
    simpa [exampleUrlSettings, Settings.splitting, exampleSettings] using hsuffix
  subst hconvay
  refine @DnsName.sub "convay".toList "com".toList ?_ (.top ?_ rfl)
  · exact DnsLabel.of_alphanum (by decide) (by decide)
  · exact DnsLabel.of_alphanum (by decide) (by decide)

example : browserReading exampleBrowserHosts "https:/\\Meet.Convay.com:443\\x" =
    some ⟨none, "meet.convay.com".toList⟩ := by
  rfl

theorem trusted_host_sound_plain :
    (TrustedBySplit exampleUrlLibrary exampleUrlSettings.convayTrustedHostSuffixes
        "https://meet.convay.com/start" ∧
      TrustedByBrowser exampleBrowserHosts exampleUrlSettings.convayTrustedHostSuffixes
        "https://meet.convay.com/start") ↔
      BackslashHarmless exampleBrowserHosts exampleUrlSettings.convayTrustedHostSuffixes
        "https://meet.convay.com/start" :=
  @trusted_host_sound_iff exampleUrlLibrary "https://meet.convay.com/start" exampleBrowserHosts
    exampleSettings (exampleStartBody "https://meet.convay.com/start")
    ⟨"cal-1", some "meet.convay.com", some "https://meet.convay.com/start", none⟩
    exampleSuffixes_names rfl rfl

/-- The browser takes the meeting grant to another host. -/
theorem backslash_hides_foreign_host :
    (∀ suffix ∈ exampleUrlSettings.convayTrustedHostSuffixes, DnsName suffix.toList) ∧
      ∃ result, parseMeeting exampleUrlSettings
          (exampleStartBody "https://evil.example\\.convay.com/start") = .ok result ∧
        result.startMeetingUrl = some "https://evil.example\\.convay.com/start" ∧
        ¬ (TrustedBySplit exampleUrlLibrary exampleUrlSettings.convayTrustedHostSuffixes
            "https://evil.example\\.convay.com/start" ∧
          TrustedByBrowser exampleBrowserHosts exampleUrlSettings.convayTrustedHostSuffixes
            "https://evil.example\\.convay.com/start") := by
  refine ⟨exampleSuffixes_names,
    ⟨"cal-1", some "meet.convay.com", some "https://evil.example\\.convay.com/start", none⟩,
    rfl, rfl, ?_⟩
  rintro ⟨_, trusted⟩
  have reading : browserReading exampleBrowserHosts "https://evil.example\\.convay.com/start" =
      some ⟨none, "evil.example".toList⟩ := by
    rfl
  obtain ⟨_, suffix, hsuffix, front, _, hhost⟩ := trusted _ reading
  have hconvay : suffix = "convay.com" := by
    simpa [exampleUrlSettings, Settings.splitting, exampleSettings] using hsuffix
  subst hconvay
  have hlast := congrArg List.getLast? hhost
  simp at hlast

end MeetingGateway

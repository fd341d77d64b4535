import SiftKit.WebSearch.UrlSafety

/-! # Fetching a page

`WebFetchService.fetch` of `web-search/web-fetch-service.ts`: the address that was asked for, and up to three that it
redirects to.
-/

namespace SiftKit.WebSearch

open SiftKit.Json
open SiftKit.Json.Schema (trim)

/-- What the HTTP client answers. -/
structure Response where
  status : Nat
  /-- `response.headers.get('location')`. -/
  location : Option JsString
  contentType : Option JsString
  /-- `response.text()`, or what reading it throws. -/
  text : Except ErrorMessage JsString

/-- `response.ok`. -/
def Response.ok (response : Response) : Bool := 200 ≤ response.status && response.status < 300

def Response.isRedirect (response : Response) : Bool := 300 ≤ response.status && response.status < 400

/-- `WebSearchConfig`, what a fetch reads of it. -/
structure WebSearchConfig where
  timeoutMs : Nat
  fetchMaxCharacters : Nat

structure WebFetchResult where
  url : JsString
  finalUrl : JsString
  title : JsString
  text : JsString
  truncated : Bool

/-- The requests of a fetch, and how it ends. -/
structure FetchRun where
  requests : List WebUrl
  outcome : Except ErrorMessage WebFetchResult

def FetchRun.after (url : WebUrl) (run : FetchRun) : FetchRun := { run with requests := url :: run.requests }

section

variable (platform : WebPlatform) (config : WebSearchConfig)

/-- `text.includes(part)`. -/
def includesText (text part : JsString) : Bool := text.tails.any part.isPrefixOf

def extractContent (rawText contentType finalUrl : JsString) : Except ErrorMessage (JsString × JsString) :=
  let type := platform.toLowerCase contentType
  if includesText type (utf16 "text/plain") || includesText type (utf16 "text/markdown") then .ok (finalUrl, trim rawText)
  else if includesText type (utf16 "text/html") || includesText type (utf16 "application/xhtml+xml") then
    platform.htmlToMarkdown rawText finalUrl
  else
    .error (utf16 "web_fetch unsupported content type: " ++
      (if contentType.isEmpty then utf16 "unknown" else contentType) ++ utf16 ".")

/-- A response that is no redirect. -/
def fetchedPage (originalUrl currentUrl : WebUrl) (response : Response) : Except ErrorMessage WebFetchResult :=
  if !response.ok then .error (utf16 "web_fetch failed with HTTP " ++ decimalText response.status ++ utf16 ".")
  else
    match response.text with
    | .error message => .error message
    | .ok rawText =>
      match extractContent platform rawText (response.contentType.getD []) currentUrl.href with
      | .error message => .error message
      | .ok (title, text) =>
        let truncated := decide (config.fetchMaxCharacters < text.length)
        .ok
          { url := originalUrl.href
            finalUrl := currentUrl.href
            title
            text := if truncated then text.take config.fetchMaxCharacters else text
            truncated }

/-- Where a redirect leads, checked. -/
def redirectedUrl (response : Response) (currentUrl : WebUrl) : Except ErrorMessage WebUrl :=
  match response.location.filter fun location => !location.isEmpty with
  | none => .error (utf16 "Redirect response did not include a Location header.")
  | some location =>
    match platform.resolveUrl location currentUrl with
    | none => .error (utf16 "Invalid URL")
    | some target => assertPublicHttpUrl platform target.href

/-- The loop over `redirect`, with as many rounds left as are given. -/
def fetchLoop (responses : Nat → Except ErrorMessage Response) (originalUrl : WebUrl) : Nat → Nat → WebUrl → FetchRun
  | 0, _, _ => { requests := [], outcome := .error (utf16 "web_fetch exceeded redirect limit.") }
  | remaining + 1, redirect, currentUrl =>
    match responses redirect with
    | .error message => { requests := [currentUrl], outcome := .error message }
    | .ok response =>
      if response.isRedirect then
        match redirectedUrl platform response currentUrl with
        | .error message => { requests := [currentUrl], outcome := .error message }
        | .ok nextUrl => (fetchLoop responses originalUrl remaining (redirect + 1) nextUrl).after currentUrl
      else { requests := [currentUrl], outcome := fetchedPage platform config originalUrl currentUrl response }

/-- `WebFetchService.fetch`; a response answers the request of its number. -/
def fetch (url : JsString) (responses : Nat → Except ErrorMessage Response) : FetchRun :=
  match assertPublicHttpUrl platform (trim url) with
  | .error message => { requests := [], outcome := .error message }
  | .ok originalUrl => fetchLoop platform config responses originalUrl 4 0 originalUrl

end

/-! ## Redirects -/

section

variable (platform : WebPlatform)

/-- The address that a response leads to, unchecked. -/
def redirectTarget (answer : Except ErrorMessage Response) (currentUrl : WebUrl) : Option WebUrl :=
  match answer with
  | .error _ => none
  | .ok response =>
    if response.isRedirect then
      ((response.location.filter fun location => !location.isEmpty).bind fun location =>
        platform.resolveUrl location currentUrl).bind fun target => platform.parseUrl (trim target.href)
    else none

/-- The address that was asked for, and those that the responses lead to one after the other. -/
def redirectChain (url : JsString) (responses : Nat → Except ErrorMessage Response) : Nat → Option WebUrl
  | 0 => platform.parseUrl (trim (trim url))
  | hop + 1 => (redirectChain url responses hop).bind (redirectTarget platform (responses hop))

end

variable {platform : WebPlatform} {config : WebSearchConfig}

theorem redirectedUrl_eq_ok {response : Response} {currentUrl nextUrl : WebUrl} (isRedirect : response.isRedirect = true) :
    redirectedUrl platform response currentUrl = .ok nextUrl ↔
      redirectTarget platform (.ok response) currentUrl = some nextUrl ∧ isAccepted platform nextUrl = true := by
  cases located : response.location.filter fun location => !location.isEmpty with
  | none => simp [redirectedUrl, redirectTarget, isRedirect, located]
  | some location =>
    cases resolved : platform.resolveUrl location currentUrl with
    | none => simp [redirectedUrl, redirectTarget, isRedirect, located, resolved]
    | some target =>
      simp [redirectedUrl, redirectTarget, isRedirect, located, resolved, assertPublicHttpUrl_eq_ok]

/-- An address of a chain that is asked for, and the addresses before it. -/
def Reached (platform : WebPlatform) (url : JsString) (responses : Nat → Except ErrorMessage Response) (hop : Nat)
    (requested : WebUrl) : Prop :=
  redirectChain platform url responses hop = some requested ∧
    ∀ earlier < hop, ∀ before, redirectChain platform url responses earlier = some before →
      isAccepted platform before = true

theorem requests_fetchLoop (responses : Nat → Except ErrorMessage Response) (originalUrl : WebUrl)
    (remaining redirect : Nat) (currentUrl : WebUrl) :
    (fetchLoop platform config responses originalUrl (remaining + 1) redirect currentUrl).requests =
      currentUrl :: ((redirectTarget platform (responses redirect) currentUrl).filter (isAccepted platform)).elim []
        fun nextUrl => (fetchLoop platform config responses originalUrl remaining (redirect + 1) nextUrl).requests := by
  cases answer : responses redirect with
  | error message => simp [fetchLoop, answer, redirectTarget]
  | ok response =>
    by_cases isRedirect : response.isRedirect = true
    · cases redirected : redirectedUrl platform response currentUrl with
      | ok nextUrl =>
        obtain ⟨isTarget, accepted⟩ := (redirectedUrl_eq_ok isRedirect).mp redirected
        have next : (redirectTarget platform (.ok response) currentUrl).filter (isAccepted platform) = some nextUrl :=
          Option.filter_eq_some_iff.mpr ⟨isTarget, accepted⟩
        simp [fetchLoop, answer, isRedirect, redirected, FetchRun.after, next]
      | error message =>
        -- An address that the check refuses is the last of the chain, as none is.
        have noNext : (redirectTarget platform (.ok response) currentUrl).filter (isAccepted platform) = none := by
          rw [Option.filter_eq_none_iff]
          intro nextUrl isTarget accepted
          rw [(redirectedUrl_eq_ok isRedirect).mpr ⟨isTarget, accepted⟩] at redirected
          cases redirected
        simp [fetchLoop, answer, isRedirect, redirected, noNext]
    · simp [fetchLoop, answer, isRedirect, redirectTarget]

theorem length_requests_fetchLoop (responses : Nat → Except ErrorMessage Response) (originalUrl : WebUrl) :
    ∀ (remaining redirect : Nat) (currentUrl : WebUrl),
      (fetchLoop platform config responses originalUrl remaining redirect currentUrl).requests.length ≤ remaining := by
  intro remaining
  induction remaining with
  | zero => simp [fetchLoop]
  | succ remaining ih =>
    intro redirect currentUrl
    rw [requests_fetchLoop, List.length_cons]
    cases next : (redirectTarget platform (responses redirect) currentUrl).filter (isAccepted platform) with
    | none => simp
    | some nextUrl =>
      have rounds := ih (redirect + 1) nextUrl
      simp only [Option.elim_some]
      omega

variable {responses : Nat → Except ErrorMessage Response}

theorem redirectChain_before {url : JsString} {hop : Nat} {reached : WebUrl}
    (isReached : redirectChain platform url responses hop = some reached) :
    ∀ earlier ≤ hop, ∃ before, redirectChain platform url responses earlier = some before := by
  induction hop generalizing reached with
  | zero =>
    intro earlier within
    obtain rfl : earlier = 0 := by omega
    exact ⟨reached, isReached⟩
  | succ hop ih =>
    intro earlier within
    rw [redirectChain, Option.bind_eq_some_iff] at isReached
    obtain ⟨current, isCurrent, leads⟩ := isReached
    cases Nat.lt_or_ge hop earlier with
    | inl last =>
      obtain rfl : earlier = hop + 1 := by omega
      exact ⟨reached, by simp [redirectChain, isCurrent, leads]⟩
    | inr below => exact ih isCurrent earlier below

/-- The rounds from an address on ask for it, and for what the chain leads to as long as the check lets it through. -/
theorem mem_fetchLoop {url : JsString} {originalUrl requested : WebUrl} :
    ∀ {remaining redirect : Nat} {currentUrl : WebUrl}, redirectChain platform url responses redirect = some currentUrl →
      (requested ∈ (fetchLoop platform config responses originalUrl remaining redirect currentUrl).requests ↔
        ∃ hop, redirect ≤ hop ∧ hop < redirect + remaining ∧ redirectChain platform url responses hop = some requested ∧
          ∀ passed, redirect < passed → passed ≤ hop → ∀ before, redirectChain platform url responses passed = some before →
            isAccepted platform before = true) := by
  intro remaining
  induction remaining with
  | zero =>
    intro redirect currentUrl _
    simp only [fetchLoop, List.not_mem_nil, false_iff]
    rintro ⟨hop, least, below, _⟩
    omega
  | succ remaining ih =>
    intro redirect currentUrl isCurrent
    have isNext : redirectChain platform url responses (redirect + 1) =
        redirectTarget platform (responses redirect) currentUrl := by simp [redirectChain, isCurrent]
    rw [requests_fetchLoop, List.mem_cons]
    constructor
    · intro member
      cases member with
      | inl same =>
        subst same
        exact ⟨redirect, Nat.le_refl _, by omega, isCurrent, by omega⟩
      | inr later =>
        cases next : (redirectTarget platform (responses redirect) currentUrl).filter (isAccepted platform) with
        | none => simp [next] at later
        | some nextUrl =>
          obtain ⟨isTarget, accepted⟩ := Option.filter_eq_some_iff.mp next
          rw [next, Option.elim_some, ih (isNext.trans isTarget)] at later
          obtain ⟨hop, least, below, isRequested, passes⟩ := later
          refine ⟨hop, by omega, by omega, isRequested, ?_⟩
          intro passed after within before isBefore
          by_cases isFirst : passed = redirect + 1
          · rw [isFirst, isNext, isTarget] at isBefore
            cases isBefore
            exact accepted
          · exact passes passed (by omega) within before isBefore
    · rintro ⟨hop, least, below, isRequested, passes⟩
      by_cases isFirst : hop = redirect
      · subst isFirst
        rw [isCurrent] at isRequested
        exact .inl (Option.some_inj.mp isRequested).symm
      · obtain ⟨nextUrl, isTarget⟩ := redirectChain_before isRequested (redirect + 1) (by omega)
        have accepted := passes (redirect + 1) (by omega) (by omega) nextUrl isTarget
        have next : (redirectTarget platform (responses redirect) currentUrl).filter (isAccepted platform) =
            some nextUrl := Option.filter_eq_some_iff.mpr ⟨isNext.symm.trans isTarget, accepted⟩
        apply Or.inr
        rw [next, Option.elim_some, ih isTarget]
        exact ⟨hop, by omega, by omega, isRequested,
          fun passed after within => passes passed (by omega) within⟩

/-- What a fetch asks for: the first four addresses of the chain, up to one that the check refuses. -/
theorem mem_fetch {url : JsString} {requested : WebUrl} :
    requested ∈ (fetch platform config url responses).requests ↔
      ∃ hop < 4, Reached platform url responses hop requested ∧ isAccepted platform requested = true := by
  have chainEnds : ∀ {hop : Nat}, redirectChain platform url responses hop = some requested →
      ∃ first, redirectChain platform url responses 0 = some first :=
    fun isReached => redirectChain_before isReached 0 (Nat.zero_le _)
  cases checked : assertPublicHttpUrl platform (trim url) with
  | error message =>
    simp only [fetch, checked, List.not_mem_nil, false_iff]
    rintro ⟨hop, below, ⟨isRequested, passes⟩, accepted⟩
    obtain ⟨first, isFirst⟩ := chainEnds isRequested
    have firstAccepted : isAccepted platform first = true := by
      cases hop with
      | zero =>
        rw [isFirst] at isRequested
        cases isRequested
        exact accepted
      | succ hop => exact passes 0 (by omega) first isFirst
    rw [assertPublicHttpUrl_eq_ok.mpr ⟨isFirst, firstAccepted⟩] at checked
    cases checked
  | ok originalUrl =>
    obtain ⟨isFirst, firstAccepted⟩ := assertPublicHttpUrl_eq_ok.mp checked
    have isStart : redirectChain platform url responses 0 = some originalUrl := isFirst
    simp only [fetch, checked]
    rw [mem_fetchLoop isStart]
    constructor
    · rintro ⟨hop, _, below, isRequested, passes⟩
      have all : ∀ passed ≤ hop, ∀ before, redirectChain platform url responses passed = some before →
          isAccepted platform before = true := by
        intro passed within before isBefore
        by_cases atStart : passed = 0
        · rw [atStart, isStart] at isBefore
          cases isBefore
          exact firstAccepted
        · exact passes passed (by omega) within before isBefore
      exact ⟨hop, by omega, ⟨isRequested, fun earlier before => all earlier (by omega)⟩,
        all hop (Nat.le_refl _) requested isRequested⟩
    · rintro ⟨hop, below, ⟨isRequested, passes⟩, accepted⟩
      refine ⟨hop, Nat.zero_le _, by omega, isRequested, ?_⟩
      intro passed _ within before isBefore
      by_cases isLast : passed = hop
      · rw [isLast, isRequested] at isBefore
        cases isBefore
        exact accepted
      · exact passes passed (by omega) before isBefore

/-! ## What a fetch asks for -/

/-- Of the network, and of no host of this machine or around it. -/
def WebUrl.IsPublic (url : WebUrl) : Prop := isHttpProtocol url.protocol = true ∧ url.host.isLocal = false

/-- No more than four requests, all of public addresses. -/
def FetchRun.StaysPublic (run : FetchRun) : Prop :=
  run.requests.length ≤ 4 ∧ ∀ requested ∈ run.requests, requested.IsPublic

/-- A fetch stays away from local hosts exactly when no address that it gets to is the unspecified one or a local name
with a final dot. -/
theorem fetch_stays_public_iff (platform : WebPlatform) (config : WebSearchConfig) (url : JsString)
    (responses : Nat → Except ErrorMessage Response) :
    (fetch platform config url responses).StaysPublic ↔
      ∀ hop < 4, ∀ requested, Reached platform url responses hop requested →
        isHttpProtocol requested.protocol = true → requested.host.escapes = false := by
  have few : (fetch platform config url responses).requests.length ≤ 4 := by
    cases checked : assertPublicHttpUrl platform (trim url) with
    | error message => simp [fetch, checked]
    | ok originalUrl =>
      simp only [fetch, checked]
      exact length_requests_fetchLoop responses originalUrl 4 0 originalUrl
  constructor
  · intro stays hop below requested reached isHttp
    by_contra found
    have escapes : requested.host.escapes = true := by simpa using found
    have accepted : isAccepted platform requested = true := accepted_of_escapes isHttp escapes
    have isPublic := stays.2 requested (mem_fetch.mpr ⟨hop, below, reached, accepted⟩)
    rw [WebUrl.IsPublic, (local_iff_escapes accepted).mpr escapes] at isPublic
    cases isPublic.2
  · intro noEscape
    refine ⟨few, ?_⟩
    intro requested member
    obtain ⟨hop, below, reached, accepted⟩ := mem_fetch.mp member
    have isHttp : isHttpProtocol requested.protocol = true := by
      simp only [isAccepted, Bool.and_eq_true] at accepted
      exact accepted.1
    refine ⟨isHttp, ?_⟩
    have noLocal := noEscape hop below requested reached isHttp
    rw [Bool.eq_false_iff] at noLocal ⊢
    exact fun isLocal => noLocal ((local_iff_escapes accepted).mp isLocal)

/-- A parser that knows one address, of the unspecified host. -/
def unspecifiedUrl : WebUrl where
  protocol := utf16 "http:"
  host := .ipv4 0 0 0 0
  href := utf16 "http://0.0.0.0:8080/"
  network := fun _ _ => nofun

def onePagePlatform : WebPlatform where
  parseUrl := fun text => if text = utf16 "http://0.0.0.0:8080/" then some unspecifiedUrl else none
  resolveUrl := fun _ _ => none
  toLowerCase := fun text => text.map asciiLowerCase
  toLowerCase_ascii := fun _ _ => rfl
  htmlToMarkdown := fun html title => .ok (title, html)

/-- The unspecified address is asked for. -/
theorem unspecified_address_is_asked_for :
    ¬(fetch onePagePlatform { timeoutMs := 30000, fetchMaxCharacters := 20000 } (utf16 "http://0.0.0.0:8080/")
      fun _ => .error (utf16 "connect ECONNREFUSED")).StaysPublic := by
  intro stays
  have asked : unspecifiedUrl ∈
      (fetch onePagePlatform { timeoutMs := 30000, fetchMaxCharacters := 20000 } (utf16 "http://0.0.0.0:8080/")
        fun _ => .error (utf16 "connect ECONNREFUSED")).requests := by
    apply mem_fetch.mpr
    have isFirst : onePagePlatform.parseUrl (trim (trim (utf16 "http://0.0.0.0:8080/"))) = some unspecifiedUrl := by
      have same : trim (trim (utf16 "http://0.0.0.0:8080/")) = utf16 "http://0.0.0.0:8080/" := by decide +kernel
      simp [same, onePagePlatform]
    exact ⟨0, by omega, ⟨isFirst, by omega⟩, accepted_of_escapes (by decide) (by decide)⟩
  exact absurd (stays.2 _ asked).2 (by decide)

end SiftKit.WebSearch

import WebAuth.BearerGate
import WebAuth.Browser.HtmlPages
import WebAuth.ClientConfig
import WebAuth.ContentSecurityPolicy

/-!
# The page that ends the issuer's session

One form that posts itself, or shows a button where no script runs. Whatever the configuration, the
token and the host's texts hold, a browser reads the same tags, and the page's policy admits the one
script and the two places the form may lead.
-/

namespace WebAuth

open Python Browser Effects

/-! ## The URLs of a client -/

/-- `_LOOPBACK_HOSTS`. -/
def loopbackHosts : List Str := [str "localhost", str "127.0.0.1", str "::1"]

/-- `_URL_RULE`. -/
def urlRule : String :=
  "a host, a valid port if any, and no control character, space, credentials, query or fragment"

/-- `_is_app_url`. No character but an ASCII letter lowers to a letter of what is compared here, and
a URL that `urlsplit` refuses is no endpoint URL over https either. -/
def isAppUrl (url : Str) : Bool :=
  if isEndpointUrl url then true
  else if lowerAscii (url.take 5) ≠ str "http:" then false
  else
    loopbackHosts.contains (lowerAscii (urlsplit url).hostinfo.1) &&
      isEndpointUrl (str "https:" ++ url.drop 5)

/-- A field is refused with its own message. -/
def requireUrl (accepts : Str → Bool) (message : String → String) (field : String × Str) :
    Except Exn Unit :=
  if !accepts field.2 then .error (.valueError (message field.1)) else .ok ()

namespace OidcClientConfig

variable (config : OidcClientConfig)

/-- `_ENDPOINT_URL_FIELDS`. -/
def endpointUrlFields : List (String × Str) :=
  [("issuer", config.issuer), ("authorization_endpoint", config.authorizationEndpoint),
    ("token_endpoint", config.tokenEndpoint), ("jwks_url", config.jwksUrl),
    ("end_session_endpoint", config.endSessionEndpoint)]

/-- `_APP_URL_FIELDS`. -/
def appUrlFields : List (String × Str) :=
  [("redirect_uri", config.redirectUri), ("post_logout_redirect_uri", config.postLogoutRedirectUri)]

/-- `_FORM_TARGET_FIELDS`. -/
def formTargetFields : List (String × Str) :=
  [("end_session_endpoint", config.endSessionEndpoint),
    ("post_logout_redirect_uri", config.postLogoutRedirectUri)]

/-- `_check_urls`. -/
def checkUrls : Except Exn Unit := do
  config.endpointUrlFields.forM (requireUrl isEndpointUrl fun name =>
    s!"{name} must be an https URL naming {urlRule}")
  config.appUrlFields.forM (requireUrl isAppUrl fun name =>
    s!"{name} must be an https URL, or an http URL whose host is" ++
      s!" localhost, 127.0.0.1 or [::1], naming {urlRule}")
  config.formTargetFields.forM (requireUrl (fun url => isPlainAuthority (urlsplit url).netloc)
    fun name => s!"{name} must name a plain host and optional port")

/-- The form that `_log_out` posts with an ID token. -/
def endSessionForm (idTokenHint : Option Str) : EndSessionForm :=
  ⟨config.endSessionEndpoint, config.clientId, config.postLogoutRedirectUri, idTokenHint⟩

end OidcClientConfig

/-! ## The page -/

/-- `_SUBMIT_SCRIPT`. -/
def submitScript : Str := str "document.forms[0].submit()"

/-- `_SCRIPT_HASH`; the script is ASCII. -/
def scriptHash (py : Platform) : Str := b64encode (py.sha256 (encodeLatin1 submitScript))

/-- `hidden_fields`. -/
def EndSessionForm.hiddenFields (form : EndSessionForm) : List (Str × Str) :=
  [(str "client_id", form.clientId),
    (str "post_logout_redirect_uri", form.postLogoutRedirectUri)] ++
    (form.idTokenHint.map fun hint => (str "id_token_hint", hint)).toList

/-- A hidden input of `_markup`. -/
def hiddenInput (field : Str × Str) : Str :=
  str "<input type=\"hidden\" name=\"" ++ htmlEscape field.1 ++ str "\" value=\"" ++
    htmlEscape field.2 ++ str "\">"

/-- `_markup`. -/
def markup (form : EndSessionForm) (language buttonLabel : Str) : Str :=
  let label := htmlEscape buttonLabel
  let inputs := form.hiddenFields.flatMap hiddenInput
  str "<!doctype html><html lang=\"" ++ htmlEscape language ++
    str "\"><head><meta charset=\"utf-8\">" ++
    str "<meta name=\"viewport\" content=\"width=device-width, initial-scale=1\">" ++
    str "<title>" ++ label ++ str "</title></head><body>" ++
    str "<form method=\"post\" action=\"" ++ htmlEscape form.endSessionEndpoint ++ str "\">" ++
    inputs ++ str "<button type=\"submit\">" ++ label ++ str "</button></form>" ++
    str "<script>" ++ submitScript ++ str "</script></body></html>"

/-- `_origin` of a URL that `urlsplit` takes. -/
def origin (url : Str) : Str :=
  let parts := urlsplit url
  parts.scheme ++ str "://" ++ parts.netloc

/-- `_content_security_policy`. -/
def formPolicy (py : Platform) (form : EndSessionForm) : Str :=
  let formTargets :=
    ([form.endSessionEndpoint, form.postLogoutRedirectUri].map origin).eraseDups
  (str "; ").intercalate
    [str "default-src 'none'",
      str "script-src 'sha256-" ++ scriptHash py ++ str "'",
      str "form-action " ++ join (chr ' ') formTargets,
      str "base-uri 'none'",
      str "frame-ancestors 'none'"]

/-! ## What should be read -/

/-- The pieces of the page. -/
def pagePieces (form : EndSessionForm) (language buttonLabel : Str) : List Piece :=
  [⟨.doctype, []⟩,
    ⟨.start (str "html") [(str "lang", language)], []⟩,
    ⟨.start (str "head") [], []⟩,
    ⟨.start (str "meta") [(str "charset", str "utf-8")], []⟩,
    ⟨.start (str "meta") [(str "name", str "viewport"),
      (str "content", str "width=device-width, initial-scale=1")], []⟩,
    ⟨.start (str "title") [], buttonLabel⟩,
    ⟨.close (str "title"), []⟩,
    ⟨.close (str "head"), []⟩,
    ⟨.start (str "body") [], []⟩,
    ⟨.start (str "form") [(str "method", str "post"), (str "action", form.endSessionEndpoint)],
      []⟩] ++
    form.hiddenFields.map (fun field =>
      ⟨.start (str "input") [(str "type", str "hidden"), (str "name", field.1),
        (str "value", field.2)], []⟩) ++
    [⟨.start (str "button") [(str "type", str "submit")], buttonLabel⟩,
      ⟨.close (str "button"), []⟩,
      ⟨.close (str "form"), []⟩,
      ⟨.start (str "script") [], submitScript⟩,
      ⟨.close (str "script"), []⟩,
      ⟨.close (str "body"), []⟩,
      ⟨.close (str "html"), []⟩]

section Source

theorem str_append (a b : String) : str a ++ str b = str (a ++ b) := by
  unfold str
  rw [String.toList_append, List.map_append]

theorem str_append_append (a b : String) (t : Str) : str a ++ (str b ++ t) = str (a ++ b) ++ t := by
  rw [← List.append_assoc, str_append]

theorem htmlEscape_str {s : String} (h : (str s).all isPlainText = true) :
    htmlEscape (str s) = str s := htmlEscape_eq_self h

theorem hiddenInput_eq (field : Str × Str) : hiddenInput field = Piece.source
    ⟨.start (str "input") [(str "type", str "hidden"), (str "name", field.1),
      (str "value", field.2)], []⟩ := by
  have hhidden : htmlEscape (str "hidden") = str "hidden" := htmlEscape_str (by decide)
  have hnil : htmlEscape [] = [] := rfl
  simp only [hiddenInput, Piece.source, Markup.text, attributeText, List.flatMap_cons,
    List.flatMap_nil, List.append_assoc, List.append_nil, hhidden, hnil, str_append,
    str_append_append, String.reduceAppend]

/-- The page is written piece by piece. -/
theorem markup_eq (form : EndSessionForm) (language buttonLabel : Str) :
    markup form language buttonLabel = pageSource (pagePieces form language buttonLabel) := by
  have hcharset : htmlEscape (str "utf-8") = str "utf-8" := htmlEscape_str (by decide)
  have hviewport : htmlEscape (str "viewport") = str "viewport" := htmlEscape_str (by decide)
  have hcontent : htmlEscape (str "width=device-width, initial-scale=1") =
      str "width=device-width, initial-scale=1" := htmlEscape_str (by decide)
  have hpost : htmlEscape (str "post") = str "post" := htmlEscape_str (by decide)
  have hsubmit : htmlEscape (str "submit") = str "submit" := htmlEscape_str (by decide)
  have hscript : htmlEscape submitScript = submitScript := htmlEscape_str (by decide)
  have hnil : htmlEscape [] = [] := rfl
  have hinputs : form.hiddenFields.flatMap hiddenInput =
      (form.hiddenFields.map fun field => (⟨.start (str "input") [(str "type", str "hidden"),
        (str "name", field.1), (str "value", field.2)], []⟩ : Piece)).flatMap Piece.source := by
    rw [List.flatMap_map]
    exact List.flatMap_congr fun field _ => hiddenInput_eq field
  simp only [markup, hinputs, pageSource, pagePieces, List.flatMap_append, List.flatMap_cons,
    List.flatMap_nil, Piece.source, Markup.text, attributeText, List.append_assoc, List.append_nil,
    hcharset, hviewport, hcontent, hpost, hsubmit, hscript, hnil, str_append, str_append_append,
    String.reduceAppend]

end Source

/-! ## What a browser reads -/

/-- The characters of a text. -/
def characters (s : Str) : List Token := s.map Token.character

/-- The tokens of a hidden input. -/
def inputToken (field : Str × Str) : Token :=
  .startTag (str "input") [(str "type", str "hidden"), (str "name", readValue field.1),
    (str "value", readValue field.2)]

/-- The tokens of the page's head. -/
def headTokens (language buttonLabel : Str) : List Token :=
  .doctype (str "html") ::
    .startTag (str "html") [(str "lang", readValue language)] ::
    .startTag (str "head") [] ::
    .startTag (str "meta") [(str "charset", str "utf-8")] ::
    .startTag (str "meta") [(str "name", str "viewport"),
      (str "content", str "width=device-width, initial-scale=1")] ::
    .startTag (str "title") [] ::
    (characters (readValue buttonLabel) ++ [.endTag (str "title"), .endTag (str "head")])

/-- The tokens of the page's form. -/
def formTokens (form : EndSessionForm) (buttonLabel : Str) : List Token :=
  .startTag (str "form") [(str "method", str "post"),
      (str "action", readValue form.endSessionEndpoint)] ::
    (form.hiddenFields.map inputToken ++ .startTag (str "button") [(str "type", str "submit")] ::
      (characters (normalizeNewlines buttonLabel) ++
        [.endTag (str "button"), .endTag (str "form")]))

/-- The tokens of the page. -/
def pageTokens (form : EndSessionForm) (language buttonLabel : Str) : List Token :=
  headTokens language buttonLabel ++ .startTag (str "body") [] ::
    (formTokens form buttonLabel ++ .startTag (str "script") [] ::
      (characters submitScript ++
        [.endTag (str "script"), .endTag (str "body"), .endTag (str "html")]))

section Reading

variable (form : EndSessionForm) (language buttonLabel : Str)

theorem isPlain_hiddenInput (field : Str × Str) : (Markup.start (str "input")
    [(str "type", str "hidden"), (str "name", field.1), (str "value", field.2)]).isPlain = true :=
  isPlain_start [str "type", str "name", str "value"] rfl (by decide +kernel)

theorem isPlain_pagePieces :
    (pagePieces form language buttonLabel).all (·.markup.isPlain) = true := by
  have hinputs : (form.hiddenFields.map fun field => (⟨.start (str "input")
      [(str "type", str "hidden"), (str "name", field.1), (str "value", field.2)], []⟩ :
        Piece)).all (·.markup.isPlain) = true := by
    rw [List.all_map, List.all_eq_true]
    exact fun field _ => isPlain_hiddenInput field
  have hhtml : (Markup.start (str "html") [(str "lang", language)]).isPlain = true :=
    isPlain_start [str "lang"] rfl (by decide +kernel)
  have hform : (Markup.start (str "form") [(str "method", str "post"),
      (str "action", form.endSessionEndpoint)]).isPlain = true :=
    isPlain_start [str "method", str "action"] rfl (by decide +kernel)
  unfold pagePieces
  simp only [List.all_append, List.all_cons, List.all_nil, hinputs, hhtml, hform]
  decide +kernel

theorem readPieces_pagePieces :
    readPieces .data ((pagePieces form language buttonLabel).map Piece.normalized) =
      some (.data, pageTokens form language buttonLabel) := by
  have hhtml : modeAfter (str "html") = some .data := by decide +kernel
  have hhead : modeAfter (str "head") = some .data := by decide +kernel
  have hmeta : modeAfter (str "meta") = some .data := by decide +kernel
  have hbody : modeAfter (str "body") = some .data := by decide +kernel
  have hform : modeAfter (str "form") = some .data := by decide +kernel
  have hinput : modeAfter (str "input") = some .data := by decide +kernel
  have hbutton : modeAfter (str "button") = some .data := by decide +kernel
  have htitle : (Markup.start (str "title") []).after .data =
      some (.raw .rcdata (str "title")) := by decide +kernel
  have hscript : (Markup.start (str "script") []).after .data =
      some (.raw .script (str "script")) := by decide +kernel
  have hendTitle : (Markup.close (str "title")).after (.raw .rcdata (str "title")) =
      some .data := by decide +kernel
  have hendScript : (Markup.close (str "script")).after (.raw .script (str "script")) =
      some .data := by decide +kernel
  have hdoctype : Markup.doctype.after .data = some .data := rfl
  have hrun : textTokens (.raw .script (str "script")) (normalizeNewlines submitScript) =
      some (submitScript.map .character) := by decide +kernel
  have hlabel : textTokens (.raw .rcdata (str "title")) (normalizeNewlines buttonLabel) =
      some ((readValue buttonLabel).map Token.character) :=
    congrArg some (List.map_map ..).symm
  have hempty : textTokens .data (normalizeNewlines []) = some [] := rfl
  unfold pagePieces
  simp only [List.cons_append, List.nil_append]
  rw [readPieces_cons hdoctype hempty, readPieces_start hhtml, readPieces_start hhead,
    readPieces_start hmeta, readPieces_start hmeta, readPieces_cons htitle hlabel,
    readPieces_cons hendTitle hempty, readPieces_close, readPieces_start hbody,
    readPieces_start hform, readPieces_starts hinput fun field : Str × Str =>
      [(str "type", str "hidden"), (str "name", field.1), (str "value", field.2)],
    readPieces_start hbutton, readPieces_close, readPieces_close, readPieces_cons hscript hrun,
    readPieces_cons hendScript hempty, readPieces_close, readPieces_close]
  have hcharset : readValue (str "utf-8") = str "utf-8" := by decide +kernel
  have hviewport : readValue (str "viewport") = str "viewport" := by decide +kernel
  have hcontent : readValue (str "width=device-width, initial-scale=1") =
      str "width=device-width, initial-scale=1" := by decide +kernel
  have hpost : readValue (str "post") = str "post" := by decide +kernel
  have hsubmit : readValue (str "submit") = str "submit" := by decide +kernel
  have hhidden : readValue (str "hidden") = str "hidden" := by decide +kernel
  have hnil : normalizeNewlines [] = [] := rfl
  unfold pageTokens headTokens formTokens characters inputToken
  simp only [List.map_nil, List.map_cons, readPieces, Option.map_some, hcharset, hviewport,
    hcontent, hpost, hsubmit, hhidden, hnil, List.nil_append, List.append_assoc,
    List.cons_append]
  rfl

/-- **The page reads as its tokens**, whatever the form and the texts hold. -/
theorem tokensOf_markup (table : ReferenceTable) :
    tokensOf table (markup form language buttonLabel) =
      some (pageTokens form language buttonLabel) := by
  rw [markup_eq]
  exact tokensOf_pageSource table (isPlain_pagePieces form language buttonLabel)
    (readPieces_pagePieces form language buttonLabel)

end Reading

end WebAuth

/-!
The style sheet that a user agent brings along: how elements look that no other sheet is about.
-/
set_option autoImplicit false

namespace WebStyle

def userAgentLines : List String :=
  ["html, address, blockquote, body, dd, div, dl, dt, fieldset, form, frame,",
   "frameset, h1, h2, h3, h4, h5, h6, noframes, ol, p, ul, center, dir, hr,",
   "menu, pre, header, footer, nav, section, article, aside, main, figure,",
   "figcaption, details, summary, legend \x7b display: block \x7d",
   "head, script, style, link, meta, title, template, [hidden] \x7b display: none \x7d",
   "li \x7b display: list-item \x7d",
   "table \x7b display: table \x7d",
   "tr \x7b display: table-row \x7d",
   "td, th \x7b display: table-cell \x7d",
   "body \x7b margin: 8px \x7d",
   "p, blockquote, ul, ol, dl, pre \x7b margin-top: 1em; margin-bottom: 1em \x7d",
   "h1 \x7b font-size: 2em; margin-top: 0.67em; margin-bottom: 0.67em; font-weight: bold \x7d",
   "h2 \x7b font-size: 1.5em; margin-top: 0.83em; margin-bottom: 0.83em; font-weight: bold \x7d",
   "h3 \x7b font-size: 1.17em; margin-top: 1em; margin-bottom: 1em; font-weight: bold \x7d",
   "b, strong, th \x7b font-weight: bold \x7d",
   "i, em, cite, var \x7b font-style: italic \x7d",
   "pre, code, kbd, samp, tt \x7b font-family: monospace \x7d",
   "a:link \x7b color: #0000ee; text-decoration-line: underline \x7d",
   "ul, ol \x7b padding-left: 40px \x7d"]

def userAgentText : String := String.intercalate "\n" userAgentLines

end WebStyle

import Restyle.Vocabulary.Table

/-!
# Names of colours

`colorWords` takes everyday words and misspellings to a colour name; `colorValues` gives the
stored text of every colour name.
-/

set_option autoImplicit false

namespace Restyle.Vocabulary

/-- Words for colours with a colour name. -/
def colorWords : Table := [
    ("blue", "blue"), ("sky", "sky"), ("sky blue", "sky"), ("light blue", "light-blue"),
    ("baby blue", "light-blue"), ("pale blue", "light-blue"), ("dark blue", "dark-blue"),
    ("navy", "dark-blue"), ("navy blue", "dark-blue"), ("ocean", "blue"), ("sea", "blue"),
    ("water", "blue"), ("azure", "sky"), ("cobalt", "blue"), ("royal blue", "blue"),
    ("indigo", "indigo"), ("bule", "blue"), ("bleu", "blue"), ("blu", "blue"), ("green", "green"),
    ("light green", "light-green"), ("dark green", "dark-green"), ("forest", "dark-green"),
    ("forest green", "dark-green"), ("lime", "lime"), ("lime green", "lime"),
    ("emerald", "emerald"), ("teal", "teal"), ("mint", "light-green"), ("sage", "green"),
    ("olive", "dark-green"), ("grass", "green"), ("nature", "green"), ("eco", "green"),
    ("grean", "green"), ("gren", "green"), ("gree", "green"), ("red", "red"),
    ("light red", "rose"), ("dark red", "red"), ("crimson", "red"), ("scarlet", "red"),
    ("ruby", "red"), ("blood", "red"), ("cherry", "red"), ("rose", "rose"), ("coral", "rose"),
    ("salmon", "rose"), ("brick", "red"), ("maroon", "red"), ("rd", "red"), ("redd", "red"),
    ("pink", "pink"), ("light pink", "pink"), ("hot pink", "pink"), ("magenta", "pink"),
    ("fuchsia", "pink"), ("blush", "pink"), ("bubblegum", "pink"), ("pnik", "pink"),
    ("pinl", "pink"), ("purple", "purple"), ("violet", "violet"), ("lavender", "violet"),
    ("plum", "purple"), ("grape", "purple"), ("amethyst", "purple"), ("orchid", "violet"),
    ("mauve", "violet"), ("light purple", "light-purple"), ("dark purple", "dark-purple"),
    ("pruple", "purple"), ("purpel", "purple"), ("purlpe", "purple"), ("yellow", "yellow"),
    ("gold", "amber"), ("golden", "amber"), ("amber", "amber"), ("honey", "amber"),
    ("mustard", "amber"), ("lemon", "yellow"), ("sunshine", "yellow"), ("sunny", "yellow"),
    ("canary", "yellow"), ("light yellow", "light-yellow"), ("yelow", "yellow"),
    ("yello", "yellow"), ("yellwo", "yellow"), ("orange", "orange"), ("light orange", "orange"),
    ("dark orange", "orange"), ("tangerine", "orange"), ("peach", "orange"),
    ("apricot", "orange"), ("rust", "orange"), ("burnt orange", "orange"), ("pumpkin", "orange"),
    ("carrot", "orange"), ("ornage", "orange"), ("orage", "orange"), ("gray", "gray"),
    ("grey", "gray"), ("silver", "gray"), ("slate", "slate"), ("charcoal", "slate"),
    ("ash", "gray"), ("stone", "slate"), ("zinc", "zinc"), ("neutral", "gray"),
    ("light gray", "light-gray"), ("light grey", "light-gray"), ("dark gray", "dark-gray"),
    ("dark grey", "dark-gray"), ("gry", "gray"), ("graay", "gray"), ("white", "white"),
    ("pure white", "white"), ("snow", "white"), ("ivory", "white"), ("cream", "white"),
    ("off white", "off-white"), ("off-white", "white"), ("light", "off-white"),
    ("pale", "off-white"), ("black", "black"), ("dark", "black"), ("jet", "black"),
    ("midnight", "black"), ("onyx", "black"), ("wihte", "white"), ("whiet", "white"),
    ("balck", "black"), ("blakc", "black"), ("success", "success"), ("positive", "success"),
    ("good", "success"), ("ok", "success"), ("complete", "success"), ("done", "success"),
    ("error", "error"), ("danger", "error"), ("fail", "error"), ("failure", "error"),
    ("wrong", "error"), ("warning", "warning"), ("caution", "warning"), ("alert", "warning"),
    ("attention", "warning"), ("info", "info"), ("information", "info")]

/-- Colour names with their stored text. -/
def colorValues : Table := [
    ("blue", "217 91% 60%"), ("light-blue", "199 89% 68%"), ("light blue", "199 89% 68%"),
    ("dark-blue", "217 91% 45%"), ("dark blue", "217 91% 45%"), ("sky", "199 89% 48%"),
    ("navy", "224 64% 33%"), ("azure", "210 100% 50%"), ("cobalt", "225 73% 57%"),
    ("indigo", "239 84% 60%"), ("light-indigo", "239 84% 72%"), ("dark-indigo", "239 84% 45%"),
    ("violet", "258 90% 60%"), ("light-violet", "258 90% 72%"), ("dark-violet", "258 90% 45%"),
    ("cyan", "189 94% 43%"), ("light-cyan", "189 94% 60%"), ("dark-cyan", "189 94% 32%"),
    ("teal", "173 80% 40%"), ("light-teal", "173 80% 55%"), ("dark-teal", "173 80% 30%"),
    ("green", "142 71% 45%"), ("light-green", "142 69% 58%"), ("light green", "142 69% 58%"),
    ("dark-green", "142 71% 35%"), ("dark green", "142 71% 35%"), ("emerald", "160 84% 39%"),
    ("lime", "84 81% 44%"), ("mint", "158 64% 52%"), ("sage", "138 30% 50%"),
    ("forest", "141 79% 25%"), ("olive", "80 39% 40%"), ("red", "0 84% 60%"),
    ("light-red", "0 84% 70%"), ("light red", "0 84% 70%"), ("dark-red", "0 84% 45%"),
    ("dark red", "0 84% 45%"), ("crimson", "348 83% 47%"), ("scarlet", "4 90% 58%"),
    ("ruby", "350 89% 45%"), ("rose", "350 89% 60%"), ("coral", "16 85% 57%"),
    ("salmon", "6 93% 71%"), ("maroon", "0 100% 25%"), ("pink", "330 81% 60%"),
    ("light-pink", "330 81% 75%"), ("light pink", "330 81% 75%"), ("dark-pink", "330 81% 45%"),
    ("hot-pink", "330 100% 71%"), ("hot pink", "330 100% 71%"), ("magenta", "300 76% 55%"),
    ("fuchsia", "292 84% 61%"), ("blush", "350 50% 80%"), ("purple", "263 70% 50%"),
    ("light-purple", "263 70% 65%"), ("light purple", "263 70% 65%"),
    ("dark-purple", "263 70% 35%"), ("dark purple", "263 70% 35%"), ("lavender", "270 67% 75%"),
    ("plum", "300 47% 45%"), ("grape", "280 60% 45%"), ("orchid", "302 59% 65%"),
    ("mauve", "292 12% 65%"), ("yellow", "48 96% 53%"), ("light-yellow", "48 96% 70%"),
    ("light yellow", "48 96% 70%"), ("dark-yellow", "48 96% 40%"), ("gold", "45 93% 47%"),
    ("golden", "45 93% 47%"), ("amber", "38 92% 50%"), ("honey", "38 85% 50%"),
    ("mustard", "47 96% 42%"), ("lemon", "54 100% 62%"), ("orange", "25 95% 53%"),
    ("light-orange", "25 95% 65%"), ("light orange", "25 95% 65%"), ("dark-orange", "25 95% 40%"),
    ("dark orange", "25 95% 40%"), ("tangerine", "28 100% 55%"), ("peach", "24 100% 75%"),
    ("apricot", "29 100% 70%"), ("rust", "18 75% 45%"), ("burnt-orange", "18 75% 45%"),
    ("burnt orange", "18 75% 45%"), ("pumpkin", "24 97% 47%"), ("gray", "220 9% 46%"),
    ("grey", "220 9% 46%"), ("light-gray", "220 9% 70%"), ("light gray", "220 9% 70%"),
    ("light-grey", "220 9% 70%"), ("light grey", "220 9% 70%"), ("dark-gray", "220 9% 30%"),
    ("dark gray", "220 9% 30%"), ("dark-grey", "220 9% 30%"), ("dark grey", "220 9% 30%"),
    ("silver", "0 0% 75%"), ("slate", "215 16% 47%"), ("charcoal", "220 13% 26%"),
    ("zinc", "240 5% 46%"), ("stone", "25 6% 45%"), ("ash", "0 0% 55%"), ("neutral", "0 0% 50%"),
    ("white", "0 0% 100%"), ("off-white", "0 0% 96%"), ("off white", "0 0% 96%"),
    ("cream", "39 77% 94%"), ("ivory", "60 100% 97%"), ("snow", "0 0% 98%"), ("black", "0 0% 0%"),
    ("jet", "0 0% 5%"), ("midnight", "222 47% 11%"), ("onyx", "0 0% 15%"),
    ("success", "142 71% 45%"), ("error", "0 84% 60%"), ("warning", "38 92% 50%"),
    ("info", "217 91% 60%"), ("danger", "0 84% 60%"), ("facebook", "220 46% 48%"),
    ("twitter", "203 89% 53%"), ("instagram", "330 70% 55%"), ("linkedin", "210 80% 40%"),
    ("youtube", "0 100% 50%"), ("spotify", "141 73% 42%")]

end Restyle.Vocabulary

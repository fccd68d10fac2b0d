import CatalogRules.Character.Runs

/-!
Which characters have which property. Each table goes through the code points from
zero: a plus sign for those that have the property and a minus sign for those that
have not, with the length of the run if it is not one. Code points after the end of
a table have not.
-/

namespace CatalogRules.PropertyTable

def asciiHexDigit : List String := [
  "-48+10-7+6-26+6"]

def alphabetic : List String := [
  "-65+26-6+26-47+-10+-4+-5+23-+31-+458-4+12-14+5-7+-+-86+-29+18-+2-2+4-+-6+-+3-+-+20-+83-+139",
  "-8+166-+38-2+-6+41-39+14-+-+2-+2-+-8+27-4+4-29+11-5+56-+7-14+102-+8-4+8-4+3-10+3-2+-16+48-13",
  "+101-24+33-9+2-4+-5+24-2+19-19+25-7+11-5+24-+6-8+-8+42-10+12-3+7-6+76-+16-+3-4+15-13+19-+8-2",
  "+2-2+22-+7-+-3+4-3+8-2+2-2+2-+-8+-4+2-+5-12+2-10+-4+3-+6-4+2-2+22-+7-+2-+2-+2-4+5-4+2-2+2-4+",
  "-7+4-+-17+6-11+3-+9-+3-+22-+7-+2-+5-3+9-+3-+2-3+-15+4-21+4-4+3-+8-2+2-2+22-+7-+2-+5-3+8-2+2",
  "-2+2-9+2-4+2-+5-13+-16+2-+6-3+3-+4-3+2-+-+2-3+2-3+3-3+12-4+5-3+3-+3-3+-6+-40+13-+3-+23-+16-3",
  "+8-+3-+3-8+2-+3-2+-2+4-28+4-+8-+3-+23-+10-+5-3+8-+3-+3-8+2-6+2-+4-13+3-12+13-+3-+41-2+8-+3-",
  "+3-+-5+4-7+5-22+6-+3-+18-3+24-+9-+-2+7-8+6-+-+8-18+2-13+58-5+7-6+-51+2-+-+5-+24-+-+19-+3-2+5",
  "-+-6+-14+4-32+-63+8-+36-4+19-4+16-+36-67+55-+-2+5-16+64-10+4-2+38-+-5+-2+43-+333-+4-2+7-+-+4",
  "-2+41-+4-2+33-+4-2+7-+-+4-2+15-+57-+4-2+67-37+16-16+86-2+6-3+620-2+17-+26-5+75-3+11-7+20-11",
  "+21-12+20-12+13-+3-+2-12+52-2+19-14+-4+-67+89-7+43-5+70-10+31-+12-4+9-23+30-2+5-11+44-4+26",
  "-54+28-4+63-2+20-50+-23+2-11+3-49+52-+15-+8-51+42-2+4-10+44-+11-14+55-22+3-10+36-2+11-5+43-2",
  "+3-41+4-+6-+2-3+-5+192-19+34-11+278-2+6-2+38-2+6-2+8-+-+-+-+31-2+53-+7-+-3+3-+7-3+4-2+6-4+13",
  "-5+3-+7-116+-13+-16+13-101+-4+-2+10-+-3+5-6+-+-+-+4-+11-2+4-5+5-4+-17+41-813+52-1814+229-6+4",
  "-3+2-12+38-+-5+-2+56-7+-16+23-9+7-+7-+7-+7-+7-+7-+7-+7-+32-47+-469+3-25+9-7+5-2+5-4+86-6+3-",
  "+90-+4-5+43-+94-17+32-48+16-512+6592-64+22157-67+46-2+269-3+16-10+2-20+47-5+8-3+113-39+9-2",
  "+103-2+67-2+2-+-+8-21+20-+33-24+52-12+68-+-44+6-3+-+3-10+33-5+35-13+29-3+51-+12-15+-16+16-10",
  "+5-+55-9+14-18+23-3+69-+-+-24+3-2+16-2+4-11+6-2+6-2+6-9+7-+7-+43-+14-6+123-21+11172-12+23-4",
  "+49-8452+366-2+106-38+7-12+5-5+12-+13-+5-+-+2-+2-+108-33+363-18+64-2+54-40+12-116+5-+135-36",
  "+26-6+26-11+89-3+6-2+6-2+6-2+3-35+12-+26-+19-+2-+15-2+14-34+123-69+53-267+29-3+49-47+32-13",
  "+30-5+43-5+30-2+36-4+8-+5-42+158-18+36-4+36-4+40-8+52-12+11-+15-+7-+2-+11-+15-+7-+2-3+52-12",
  "+311-9+22-10+8-24+6-+42-+9-69+6-2+-+44-+2-3+-2+23-10+23-9+31-65+19-+2-10+22-10+26-70+56-6+2",
  "-64+4-+2-5+8-+3-+29-42+29-3+29-35+8-+28-27+54-10+22-10+19-13+18-110+73-55+51-13+51-13+40-34",
  "+28-3+-5+23-250+42-+2-3+2-16+3-55+-3+29-10+-8+22-42+18-46+21-27+23-9+70-43+5-10+57-9+-13+25",
  "-23+51-17+4-8+35-3+-9+64-+4-9+2-10+-+-35+18-+34-2+-6+4-62+7-+-+4-+15-+10-7+57-23+4-+8-2+2-2",
  "+22-+7-+2-+5-3+8-2+2-2+2-3+-6+-5+7-28+10-+-2+-+38-+10-+-2+-+4-+2-3+-+-44+66-+3-+4-20+3-30+66",
  "-2+2-+-184+54-2+7-25+6-34+63-+-3+-59+54-2+-71+27-2+14-21+7-185+57-103+64-31+8-2+-2+8-+2-+30-",
  "+2-2+2-2+4-93+8-2+46-2+6-+-+2-27+51-2+10-17+72-5+-18+73-199+33-31+9-+45-+7-+-49+30-2+22-+14",
  "-73+7-+2-+44-3+-+2-+3-+-2+2-24+6-+2-+37-+2-+4-+-327+23-9+17-+41-3+3-111+-79+922-102+111-17",
  "+196-2636+97-15+1072-17+6-25+3995-5+583-6841+47-1745+569-7+31-17+79-17+30-18+48-16+4-31+21-5",
  "+19-432+45-211+64-128+75-4+57-7+17-64+2-+-12+2-14+6136-8+1238-41+10-8935+4-+7-+2-+291-15+-29",
  "+3-2+-14+4-8+396-2308+107-5+13-3+9-7+10-4+-5985+85-+71-+2-2+-2+2-2+4-+12-+-+7-+65-+4-2+8-+7-",
  "+28-+4-+5-+-3+7-+340-2+25-+25-+31-+25-+31-+25-+31-+25-+31-+25-+8-1844+31-6+6-213+7-+17-2+7-",
  "+2-+5-5+62-33+-112+45-10+7-16+-321+30-18+44-484+28-228+30-2+-495+7-+4-+2-+15-+197-59+68-3+-3",
  "+-1204+4-+27-+2-+-2+-+10-+4-+-+-6+-4+-+-+-+3-+2-+-2+-+-+-+-+-+2-+-2+4-+7-+4-+4-+-+10-+17-5+3",
  "-+5-+17-628+26-6+26-6+26-3702+42720-32+4154-6+222-2+5762-14+7473-15+622-2466+542-1506+4939-5",
  "+4192"]

def bidiControl : List String := [
  "-1564+-6641+2-26+5-55+4"]

def caseIgnorable : List String := [
  "-39+-6+-11+-35+-+-71+-4+-+-4+-2+2-503+192-4+2-4+-9+2-+-251+7-207+-5+-49+45-+-+2-+2-+-44+-11",
  "+6-10+11-+-35+-10+21-16+-101+8-+10-+4-33+-+-30+27-91+11-58+11-4+-2+-24+24-43+3-44+-7+2-5+9",
  "-41+58-55+-+-4+8-4+-3+7-10+2-13+-15+-58+-4+4-8+-20+2-26+-2+2-57+-4+2-4+2-2+3-3+-30+2-3+-11+2",
  "-57+-4+5-+2-4+-20+2-22+6-+-58+-2+-+4-8+-7+2-11+2-30+-61+-12+-50+-3+-55+-+3-5+3-+4-7+2-11+2",
  "-29+-58+-2+-6+-5+2-20+2-28+2-57+2-4+4-8+-20+2-29+-72+-7+3-+-90+-2+7-11+9-98+-2+9-9+-+7-73+2",
  "-27+-+-+-55+14-+5-+2-5+11-+36-9+-102+4-+6-+2-2+2-25+2-4+3-16+4-13+-2+2-6+-15+-94+-608+3-946",
  "+3-29+2-30+2-30+2-64+2-+7-8+-2+11-3+-5+-45+5-51+-65+2-34+-118+3-4+2-9+-6+3-219+2-2+-58+-+7-+",
  "-+-2+8-6+10-2+-39+-8+31-49+4-48+-+5-+-5+-40+9-12+2-32+4-2+2-+3-56+-+2-3+-+3-58+8-2+2-64+6-82",
  "+3-+13-+7-4+-6+-3+2-50+63-13+-34+101-445+-+3-11+3-13+3-13+3-13+2-12+5-8+2-10+-2+-2+5-49+5-",
  "+10-+-13+-16+13-51+33-2955+2-113+3-125+-15+-96+32-47+-469+-36+4-3+5-5+-93+6-93+3-28438+-1250",
  "+6-270+-98+4-+10-+-28+4-80+2-14+34-78+-23+3-103+3-3+2-8+-3+-4+-25+2-5+-151+2-26+18-13+-38+8",
  "-25+11-46+3-48+-2+4-2+2-17+-21+2-66+6-2+2-2+2-12+-8+-35+-11+-51+-+3-2+2-5+2-+-27+-14+2-5+2-+",
  "-100+5-9+3-121+-2+-4+-20272+-147+17-573+16-3+-12+16-34+-2+-169+-7+-6+-11+-35+-+-47+-45+2-67+",
  "-21+3-513+-226+-149+5-1029+6-+42-+9-582+3-+2-5+4-40+3-4+-165+2-573+4-38+-26+5-+-315+2-79+4",
  "-70+11-49+4-123+-54+15-41+-2+2-10+3-49+4-2+2-2+-4+-10+-50+3-36+5-+8-62+-12+2-52+9-10+4-2+-95",
  "+3-2+-+2-6+-2+-157+-3+8-21+2-57+2-3+-37+7-3+5-70+6-13+-+-+-14+2-85+8-2+3-+-23+-84+6-+-4+2-+2",
  "-238+4-6+2-+2-27+2-85+8-2+-+2-106+-+-2+6-+-101+-+-2+4-+5-259+9-+2-256+2-+-4+-144+4-2+2-4+-32",
  "+10-40+6-2+4-8+-9+6-2+3-46+13-+2-406+7-+6-+-82+22-2+7-+2-+2-122+6-3+-+2-+7-+-72+2-3+-+-347+2",
  "-11+2-52+5-5+-+-23+-5333+17-6+15-11464+12-3+3-2496+5-59+7-9+4-508+3-40+2-482+-63+17-64+2-+2",
  "-16395+4-+7-+2-3230+2-+4-4700+46-2+23-544+3-9+16-2+7-30+4-148+3-1979+55-4+50-8+-14+-22+5-+15",
  "-1360+7-+17-2+7-+2-+5-5+62-33+-160+14-368+-61+4-507+5-254+2-736+7-109+8-2735+5-789505+-30+96",
  "-128+240"]

def cased : List String := [
  "-65+26-6+26-47+-10+-4+-5+23-+31-+195-+4-4+208-+36-7+2-30+5-96+-42+4-2+2-2+4-+-6+-+3-+-+20-",
  "+83-+139-8+166-+38-9+41-2839+38-+-5+-2+43-+4-672+86-2+6-2178+11-5+43-2+3-64+192-64+278-2+6-2",
  "+38-2+6-2+8-+-+-+-+31-2+53-+7-+-3+3-+7-3+4-2+6-4+13-5+3-+7-116+-13+-16+13-101+-4+-2+10-+-3+5",
  "-6+-+-+-+4-+6-4+-2+4-5+5-4+-17+32-3+2-817+52-1814+229-6+4-3+2-12+38-+-5+-30994+46-18+30-132",
  "+102-3+4-+62-2+2-+-+8-21+5-+3-821+43-+14-6+80-20288+7-12+5-1033+26-6+26-1189+80-96+36-4+36",
  "-116+11-+15-+7-+2-+11-+15-+7-+2-451+-2+3-+42-+9-1221+51-13+51-93+22-10+22-2842+64-21856+64",
  "-25984+85-+71-+2-2+-2+2-2+4-+12-+-+7-+65-+4-2+8-+7-+28-+4-+5-+-3+7-+340-2+25-+25-+31-+25-+31",
  "-+25-+31-+25-+31-+25-+8-1844+10-+20-6+6-261+62-2194+68-2028+26-6+26-6+26"]

def changesWhenCasefolded : List String := [
  "-65+26-90+-10+23-+8-32+-+-+-+-+-+-+-+-+-+-+-+-+-+-+-+-+-+-+-+-+-+-+-+-+-+-+-+-2+-+-+-+-+-+-+",
  "-+-+2-+-+-+-+-+-+-+-+-+-+-+-+-+-+-+-+-+-+-+-+-+-+-+2-+-+-+-+2-+-+2-+3-2+4-+2-+3-3+2-+2-+-+-",
  "+2-+-2+-+2-+3-+-+2-3+-7+2-+2-+2-+-+-+-+-+-+-+-+-2+-+-+-+-+-+-+-+-+-2+2-+-+3-+-+-+-+-+-+-+-+-",
  "+-+-+-+-+-+-+-+-+-+-+-+-+-+-+-+-+-+-+-+-+-7+2-+2-2+-+4-+-+-+-+-246+-42+-+-3+-8+-6+-+3-+-+2-",
  "+17-+9-22+-12+3-3+2-+-+-+-+-+-+-+-+-+-+-+-+-+2-2+2-+-+2-2+51-48+-+-+-+-+-+-+-+-+-+-+-+-+-+-+",
  "-+-+-9+-+-+-+-+-+-+-+-+-+-+-+-+-+-+-+-+-+-+-+-+-+-+-+-+-+-+-+2-+-+-+-+-+-+-2+-+-+-+-+-+-+-+-",
  "+-+-+-+-+-+-+-+-+-+-+-+-+-+-+-+-+-+-+-+-+-+-+-+-+-+-+-+-+-+-+-+-+-+-+-+-+-+-+-+-2+38-48+",
  "-2840+38-+-5+-810+6-2178+10-6+43-2+3-320+-+-+-+-+-+-+-+-+-+-+-+-+-+-+-+-+-+-+-+-+-+-+-+-+-+-",
  "+-+-+-+-+-+-+-+-+-+-+-+-+-+-+-+-+-+-+-+-+-+-+-+-+-+-+-+-+-+-+-+-+-+-+-+-+-+-+-+-+-+-+-+-+-+-",
  "+-+-+-5+2-2+-+-+-+-+-+-+-+-+-+-+-+-+-+-+-+-+-+-+-+-+-+-+-+-+-+-+-+-+-+-+-+-+-+-+-+-+-+-+-+-+",
  "-+-+-+-+-+-+-+-+-9+8-8+6-10+8-8+8-8+6-11+-+-+-+-8+8-16+48-2+3-2+6-5+3-2+6-11+4-12+5-5+3-2+6",
  "-297+-3+2-6+-45+16-19+-818+26-1840+48-48+-+3-2+-+-+-+4-+-2+-8+3-+-+-+-+-+-+-+-+-+-+-+-+-+-+-",
  "+-+-+-+-+-+-+-+-+-+-+-+-+-+-+-+-+-+-+-+-+-+-+-+-+-+-+-+-+-+-+-+-+-+-+-8+-+-4+-31053+-+-+-+-+",
  "-+-+-+-+-+-+-+-+-+-+-+-+-+-+-+-+-+-+-19+-+-+-+-+-+-+-+-+-+-+-+-+-+-135+-+-+-+-+-+-+-3+-+-+-+",
  "-+-+-+-+-+-+-+-+-+-+-+-+-+-+-+-+-+-+-+-+-+-+-+-+-+-+-+-10+-+-+2-+-+-+-+-4+-+-2+-+-3+-+-+-+-+",
  "-+-+-+-+-+-+5-+5-+-+-+-+-+-+-+-+4-+-+2-3+-5+-+-+-+-24+-890+80-20288+7-12+5-1033+26-1221+40",
  "-136+36-156+11-+15-+7-+2-1770+51-157+22-2874+32-21888+32-31392+34"]

def changesWhenCasemapped : List String := [
  "-65+26-6+26-58+-10+23-+31-+64-+84-+28-2+14-2+2-+-4+93-+18-6+27-+2-+-+2-3+2-+4-+5-2+-+2-2+-7+",
  "-2+-+2-3+6-5+-10+2-166+-42+4-2+2-3+3-+-6+-+3-+-+20-+47-3+33-+5-+133-8+166-+38-10+39-2840+38-",
  "+-5+-2+43-2+3-672+86-2+6-2178+11-5+43-2+3-185+-3+-16+-113+156-2+-+118-2+6-2+38-2+6-2+8-+-+-+",
  "-+31-2+53-+7-+-3+3-+7-3+4-2+6-4+13-5+3-+7-297+-3+2-6+-27+-17+32-3+2-817+52-1814+113-+2-+2-7",
  "+102-7+4-3+2-12+38-+-5+-30994+46-18+28-134+14-2+62-9+15-3+3-2+5-+25-+30-2+2-4+7-24+2-860+-28",
  "+80-20288+7-12+5-1033+26-6+26-1189+80-96+36-4+36-116+11-+15-+7-+2-+11-+15-+7-+2-1731+51-13",
  "+51-93+22-10+22-2842+64-21856+64-31360+68"]

def changesWhenLowercased : List String := [
  "-65+26-101+23-+7-33+-+-+-+-+-+-+-+-+-+-+-+-+-+-+-+-+-+-+-+-+-+-+-+-+-+-+-+-2+-+-+-+-+-+-+-+",
  "-2+-+-+-+-+-+-+-+-+-+-+-+-+-+-+-+-+-+-+-+-+-+-+-+2-+-+-3+2-+-+2-+3-2+4-+2-+3-3+2-+2-+-+-+2-+",
  "-2+-+2-+3-+-+2-3+-7+2-+2-+2-+-+-+-+-+-+-+-+-2+-+-+-+-+-+-+-+-+-2+2-+-+3-+-+-+-+-+-+-+-+-+-+-",
  "+-+-+-+-+-+-+-+-+-+-+-+-+-+-+-+-+-+-+-7+2-+2-2+-+4-+-+-+-+-289+-+-3+-8+-6+-+3-+-+2-+17-+9-35",
  "+-8+-+-+-+-+-+-+-+-+-+-+-+-5+-2+-+2-2+51-48+-+-+-+-+-+-+-+-+-+-+-+-+-+-+-+-+-9+-+-+-+-+-+-+-",
  "+-+-+-+-+-+-+-+-+-+-+-+-+-+-+-+-+-+-+-+-+2-+-+-+-+-+-+-2+-+-+-+-+-+-+-+-+-+-+-+-+-+-+-+-+-+-",
  "+-+-+-+-+-+-+-+-+-+-+-+-+-+-+-+-+-+-+-+-+-+-+-+-+-+-+-+-+-+-2+38-2889+38-+-5+-722+86-2195+-6",
  "+43-2+3-320+-+-+-+-+-+-+-+-+-+-+-+-+-+-+-+-+-+-+-+-+-+-+-+-+-+-+-+-+-+-+-+-+-+-+-+-+-+-+-+-+",
  "-+-+-+-+-+-+-+-+-+-+-+-+-+-+-+-+-+-+-+-+-+-+-+-+-+-+-+-+-+-+-+-+-+-+-9+-+-+-+-+-+-+-+-+-+-+-",
  "+-+-+-+-+-+-+-+-+-+-+-+-+-+-+-+-+-+-+-+-+-+-+-+-+-+-+-+-+-+-+-+-+-+-+-+-+-+-9+8-8+6-10+8-8+8",
  "-8+6-11+-+-+-+-8+8-24+8-8+8-8+8-8+5-11+5-11+4-12+5-11+5-297+-3+2-6+-45+16-19+-818+26-1840+48",
  "-48+-+3-2+-+-+-+4-+-2+-8+3-+-+-+-+-+-+-+-+-+-+-+-+-+-+-+-+-+-+-+-+-+-+-+-+-+-+-+-+-+-+-+-+-+",
  "-+-+-+-+-+-+-+-+-+-+-+-+-+-+-+-+-8+-+-4+-31053+-+-+-+-+-+-+-+-+-+-+-+-+-+-+-+-+-+-+-+-+-+-+",
  "-19+-+-+-+-+-+-+-+-+-+-+-+-+-+-135+-+-+-+-+-+-+-3+-+-+-+-+-+-+-+-+-+-+-+-+-+-+-+-+-+-+-+-+-+",
  "-+-+-+-+-+-+-+-+-+-10+-+-+2-+-+-+-+-4+-+-2+-+-3+-+-+-+-+-+-+-+-+-+-+5-+5-+-+-+-+-+-+-+-+4-+-",
  "+2-3+-5+-+-+-+-24+-22315+26-1221+40-136+36-156+11-+15-+7-+2-1770+51-157+22-2874+32-21888+32",
  "-31392+34"]

def changesWhenTitlecased : List String := [
  "-97+26-58+-41+24-+8-+-+-+-+-+-+-+-+-+-+-+-+-+-+-+-+-+-+-+-+-+-+-+-+-+-+-+-+-2+-+-+-+-+-+-+-",
  "+2-+-+-+-+-+-+-+-+-+-+-+-+-+-+-+-+-+-+-+-+-+-+-+-2+-+-+3-2+-+-2+-3+-5+-2+-3+3-2+-2+-+-+-2+-4",
  "+-2+-3+-+-2+-3+-+-4+-+2-+2-+-+-+-+-+-+-+-+-+2-+-+-+-+-+-+-+-+-+3-+-+-3+-+-+-+-+-+-+-+-+-+-+-",
  "+-+-+-+-+-+-+-+-+-3+-+-+-+-+-+-+-+-+-8+-2+2-+-4+-+-+-+-+6-+2-+-+2-3+2-+4-+5-2+-+2-2+-7+-2+-",
  "+2-3+6-5+-10+2-166+-43+-+-3+-3+3-18+-27+35-+2-3+3-+-+-+-+-+-+-+-+-+-+-+-+5-+-2+-2+-52+48-+-+",
  "-+-+-+-+-+-+-+-+-+-+-+-+-+-+-+-9+-+-+-+-+-+-+-+-+-+-+-+-+-+-+-+-+-+-+-+-+-+-+-+-+-+-+-2+-+-+",
  "-+-+-+-+2-+-+-+-+-+-+-+-+-+-+-+-+-+-+-+-+-+-+-+-+-+-+-+-+-+-+-+-+-+-+-+-+-+-+-+-+-+-+-+-+-+-",
  "+-+-+-+-+-+-+-49+39-3696+6-2178+9-+-238+-3+-16+-114+-+-+-+-+-+-+-+-+-+-+-+-+-+-+-+-+-+-+-+-+",
  "-+-+-+-+-+-+-+-+-+-+-+-+-+-+-+-+-+-+-+-+-+-+-+-+-+-+-+-+-+-+-+-+-+-+-+-+-+-+-+-+-+-+-+-+-+-+",
  "-+-+-+-+-+-+-+-+7-5+-+-+-+-+-+-+-+-+-+-+-+-+-+-+-+-+-+-+-+-+-+-+-+-+-+-+-+-+-+-+-+-+-+-+-+-+",
  "-+-+-+-+-+-+-+-+-+-+-+9-8+6-10+8-8+8-8+6-10+8-8+8-8+14-2+8-8+8-8+8-8+5-+2-6+-3+3-+2-8+4-2+2",
  "-8+8-10+3-+2-342+-33+16-4+-843+26-1862+48-+-3+2-+-+-+-6+-2+-10+-+-+-+-+-+-+-+-+-+-+-+-+-+-+-",
  "+-+-+-+-+-+-+-+-+-+-+-+-+-+-+-+-+-+-+-+-+-+-+-+-+-+-+-+-+-+-+-+-+-+-+-8+-+-4+-12+38-+-5+",
  "-30995+-+-+-+-+-+-+-+-+-+-+-+-+-+-+-+-+-+-+-+-+-+-+-19+-+-+-+-+-+-+-+-+-+-+-+-+-+-135+-+-+-+",
  "-+-+-+-3+-+-+-+-+-+-+-+-+-+-+-+-+-+-+-+-+-+-+-+-+-+-+-+-+-+-+-+-+-+-+-10+-+-2+-+-+-+-+-4+-4+",
  "-+2-2+-+-+-+-+-+-+-+-+-+-11+-+-+-+-+-+-+-+-4+-+-2+-3+-5+-+-+-26+-860+-28+80-20288+7-12+5",
  "-1065+26-1229+40-136+36-155+11-+15-+7-+2-1795+51-125+22-2874+32-21888+32-31394+34"]

def changesWhenUppercased : List String := [
  "-97+26-58+-41+24-+8-+-+-+-+-+-+-+-+-+-+-+-+-+-+-+-+-+-+-+-+-+-+-+-+-+-+-+-+-2+-+-+-+-+-+-+-",
  "+2-+-+-+-+-+-+-+-+-+-+-+-+-+-+-+-+-+-+-+-+-+-+-+-2+-+-+3-2+-+-2+-3+-5+-2+-3+3-2+-2+-+-+-2+-4",
  "+-2+-3+-+-2+-3+-+-5+2-+2-+2-+-+-+-+-+-+-+-+2-+-+-+-+-+-+-+-+-+2-+2-+-3+-+-+-+-+-+-+-+-+-+-+-",
  "+-+-+-+-+-+-+-+-+-3+-+-+-+-+-+-+-+-+-8+-2+2-+-4+-+-+-+-+6-+2-+-+2-3+2-+4-+5-2+-+2-2+-7+-2+-",
  "+2-3+6-5+-10+2-166+-43+-+-3+-3+3-18+-27+35-+2-3+3-+-+-+-+-+-+-+-+-+-+-+-+5-+-2+-2+-52+48-+-+",
  "-+-+-+-+-+-+-+-+-+-+-+-+-+-+-+-9+-+-+-+-+-+-+-+-+-+-+-+-+-+-+-+-+-+-+-+-+-+-+-+-+-+-+-2+-+-+",
  "-+-+-+-+2-+-+-+-+-+-+-+-+-+-+-+-+-+-+-+-+-+-+-+-+-+-+-+-+-+-+-+-+-+-+-+-+-+-+-+-+-+-+-+-+-+-",
  "+-+-+-+-+-+-+-49+39-2888+43-2+3-760+6-2178+9-+-238+-3+-16+-114+-+-+-+-+-+-+-+-+-+-+-+-+-+-+-",
  "+-+-+-+-+-+-+-+-+-+-+-+-+-+-+-+-+-+-+-+-+-+-+-+-+-+-+-+-+-+-+-+-+-+-+-+-+-+-+-+-+-+-+-+-+-+-",
  "+-+-+-+-+-+-+-+-+-+-+-+-+-+7-5+-+-+-+-+-+-+-+-+-+-+-+-+-+-+-+-+-+-+-+-+-+-+-+-+-+-+-+-+-+-+-",
  "+-+-+-+-+-+-+-+-+-+-+-+-+-+-+-+-+9-8+6-10+8-8+8-8+6-10+8-8+8-8+14-2+53-+2-4+-+-3+3-+2-4+-3+4",
  "-2+2-8+8-10+3-+2-4+-337+-33+16-4+-843+26-1862+48-+-3+2-+-+-+-6+-2+-10+-+-+-+-+-+-+-+-+-+-+-+",
  "-+-+-+-+-+-+-+-+-+-+-+-+-+-+-+-+-+-+-+-+-+-+-+-+-+-+-+-+-+-+-+-+-+-+-+-+-+-+-8+-+-4+-12+38-+",
  "-5+-30995+-+-+-+-+-+-+-+-+-+-+-+-+-+-+-+-+-+-+-+-+-+-+-19+-+-+-+-+-+-+-+-+-+-+-+-+-+-135+-+-",
  "+-+-+-+-+-3+-+-+-+-+-+-+-+-+-+-+-+-+-+-+-+-+-+-+-+-+-+-+-+-+-+-+-+-+-+-+-10+-+-2+-+-+-+-+-4+",
  "-4+-+2-2+-+-+-+-+-+-+-+-+-+-11+-+-+-+-+-+-+-+-4+-+-2+-3+-5+-+-+-26+-860+-28+80-20288+7-12+5",
  "-1065+26-1229+40-136+36-155+11-+15-+7-+2-1795+51-125+22-2874+32-21888+32-31394+34"]

def dash : List String := [
  "-45+-1372+-51+-3649+-1029+-2057+6-61+-39+-15+-390+-3076+-2+-31+2-4+-28+-446+-19+-111+-52624",
  "+2-37+-10+-169+-3680+-318+"]

def defaultIgnorableCodePoint : List String := [
  "-173+-673+-716+-2882+2-1619+2-85+5-2043+5-26+5-49+16-4340+-52379+16-239+-160+-79+9-48295+4",
  "-5327+8-798341+4096"]

def deprecated : List String := [
  "-329+-1321+-2307+-+-2089+2-2245+6-697+2-908502+"]

def diacritic : List String := [
  "-94+-+-71+-6+-4+-2+2-503+159-+8-5+6-17+2-4+-9+2-253+5-209+-55+45-+-+2-+2-+-131+8-4+2-134+2-4",
  "+2-3+3-67+27-91+11-58+11-34+2-126+8-41+10-16+28-61+-16+-3+4-28+-74+-16+-110+-16+-110+-16+-47",
  "+3-60+-16+-7+-119+-110+-16+-110+-16+-109+2-16+-124+-111+-12+6-+-107+-13+5-75+2-27+-+-+-4+2",
  "-66+3-+2-62+-112+-+2-40+2-4+5-25+7-+-10+2-705+3-948+2-30+-148+11-9+-347+3-292+-20+8-2+-48+15",
  "-2+11-104+-15+-38+9-54+2-58+-11+2-66+2-64+6-82+25-4+-6+-2+3-50+63-48+36-5+12-37+11-445+-+3",
  "-11+3-13+3-13+3-13+2-3312+3-317+-506+6-105+4-95+-30066+-12+2-+-28+2-82+2-14+34-102+3-109+2",
  "-12+-37+-151+-27+18-57+4-36+-95+-12+-36+-149+3-65+4-51+-100+5-9+3-128+2-20272+-769+16-270+-+",
  "-47+-45+2-67+-764+-1183+6-+42-+9-637+3-4+-165+2-571+6-38+-26+5-399+3-70+11-49+4-192+-41+-72",
  "+2-120+2-62+-76+-9+3-104+2-178+2-80+2-16+-24+7-3+5-89+3-+2-13+2-95+-3+-123+2-251+2-126+-118",
  "+2-115+-269+2-258+2-4+-156+-83+-18+-81+-421+-258+-+2-81+-425+2-23+-5356+15-11481+-2496+5-59",
  "+7-564+2-546+17-80+2-16382+4-+7-+2-7937+46-2+23-544+3-3+6-8+8-2+7-30+4-3714+62-194+7-375+-61",
  "+4-766+2-736+7-109+3-+3"]

def emoji : List String := [
  "-35+-6+-5+10-111+-4+-8077+-12+-216+-22+-90+6-15+2-367+2-12+-166+-25+11-4+3-199+-231+2-10+-9+",
  "-58+4-+5-9+-2+-2+2-2+-4+-2+-+2-2+-3+-3+2-8+3-5+-+-5+12-11+2-2+-+2-+-18+-2+2-18+6-+-+2-3+2-5+",
  "-2+2-4+2-11+2-5+2-2+-5+2-+-+2-20+2-5+6-+4-2+-4+-2+-2+6-+-2+-+-+-6+-3+-6+-10+2-15+-2+-4+-+-4",
  "+3-+-11+2-48+3-9+-14+-14+-372+2-463+3-19+2-51+-4+-1242+-12+-601+-+-114026+-202+-160+2-12+2",
  "-14+-2+10-75+26-+2-23+-20+-2+9-21+2-174+34-2+112-2+2-+3-2+83-2+3-+263-+63-11+6-+24-7+2-2+8",
  "-12+-2+4-2+-4+2-13+2-2+-8+2-9+-5+3-12+3-8+3-2+-+-4+-6+-3+-6+86-48+70-5+8-2+3-4+10-3+-+2-3+-2",
  "+10-227+12-4+-283+47-+10-+185-112+13-3+10-5+56-7+15-2+11-6+9"]

def emojiComponent : List String := [
  "-35+-6+-5+10-8147+-213+-56619+-62422+26-507+5-1456+4-788076+96"]

def emojiModifier : List String := [
  "-127995+5"]

def emojiModifierBase : List String := [
  "-9757+-219+-16+4-117879+-60+3-2+-2+3-117+2-2+11-21+19-3+-4+3-+3-7+-+-24+-201+2-4+-21+-4+2",
  "-174+3-3+5-83+-16+3-9+-11+-575+-2+-8+8-6+-9+10-2+3-56+-61+2-+2-+-17+3-+13-229+3-42+9"]

def emojiPresentation : List String := [
  "-8986+2-205+4-3+-2+-521+2-21+2-50+12-43+-19+-13+-8+2-17+2-5+2-8+-5+-21+-7+2-+-4+-2+-7+-4+2",
  "-28+-35+-+-4+3-+-61+3-24+-14+-859+2-51+-4+-115886+-202+-190+-2+10-75+26-+-24+-20+-2+5-+3-21",
  "+2-174+33-12+9-+70-+22-12+43-4+5-12+17-3+-3+71-+-+187-2+63-13+4-+24-18+-26+2-13+-86+85-48+70",
  "-6+-3+3-2+3-4+4-11+2-7+9-227+12-4+-283+47-+10-+185-112+13-3+10-5+56-7+15-2+11-6+9"]

def extendedPictographic : List String := [
  "-169+-4+-8077+-12+-216+-22+-90+6-15+2-367+2-12+-95+-70+-25+11-4+3-199+-231+2-10+-9+-58+4-+6-",
  "+12-+114-10+118-2+11-+-+-6+-3+-6+-10+2-15+-2+-4+-+-4+3-+-11+5-45+3-9+-14+-14+-372+2-463+3-19",
  "+2-51+-4+-1242+-12+-601+-+-114022+256-13+3-31+-60+6-12+2-14+-2+10-18+57-27+15-10+-20+-2+9-+4",
  "-9+434-5+318-8+266-48+128-116+12-85+43-12+4-56+8-10+6-40+8-30+82-12+47-+10-+441-256+1022"]

def extender : List String := [
  "-183+-536+2-878+-441+-630+-137+-89+-752+-127+-2371+-56+-611+-398+-68+-5001+-43+5-103+2-93+3",
  "-28438+-1526+-962+-22+-137+-108+-21+2-21627+-2064+2-1483+-27+-4+-1223+-293+-116+2-498+3-1231",
  "+-20649+2-1180+2-+-29016+2-1201+-852+3"]

def graphemeBase : List String := [
  "-32+95-33+13-+594-112+8-2+6-4+7-+-+20-+224-7+166-+38-2+50-2+3-46+-+-2+-2+-9+27-4+6-17+10-11+",
  "-+46-21+16-+101-8+-6+2-2+-4+32-2+-+30-29+89-11+-14+43-9+7-3+24-4+-9+-3+-7+15-+25-5+-+11-5+31",
  "-17+42-57+55-+-+4-8+4-+3-7+10-2+29-+2-+8-2+2-2+22-+7-+-3+4-3+-+2-6+2-2+2-+-13+2-+3-4+24-5+-",
  "+6-4+2-2+22-+7-+2-+2-+2-4+3-24+4-+-7+10-2+3-+-12+-+9-+3-+22-+7-+2-+5-3+4-8+-+2-3+-15+2-4+12",
  "-7+-8+2-+8-2+2-2+22-+7-+2-+5-3+-2+-6+2-2+2-15+2-+3-4+18-11+-+6-3+3-+4-3+2-+-+2-3+2-3+3-3+12",
  "-5+-+2-3+3-+3-3+-21+21-6+3-+8-+3-+23-+16-3+-3+4-19+3-2+-2+2-4+10-7+10-+11-+3-+23-+10-+5-3+2",
  "-2+-+2-24+2-+2-4+10-+3-14+11-+3-+41-2+-+2-5+3-+3-+2-4+3-+10-4+26-2+2-+18-3+24-+9-+-2+7-9+2-6",
  "+7-7+10-2+3-12+48-+2-11+8-8+13-37+2-+-+5-+24-+-+10-+2-9+-2+5-+-9+10-2+4-32+24-2+27-+-+-+14-",
  "+36-18+-5+-2+5-49+8-+6-+13-37+45-4+-6+-2+2-2+25-2+4-3+16-4+13-+2-2+6-+15-+40-+-5+-2+377-+4-2",
  "+7-+-+4-2+41-+4-2+33-+4-2+7-+-+4-2+15-+57-+4-2+67-5+29-3+26-6+86-2+6-2+669-3+89-7+18-13+19-3",
  "+2-9+18-14+13-+3-15+52-2+-7+8-+2-11+9-3+10-6+10-6+11-5+10-6+89-7+5-2+34-+-5+70-10+31-4+4-2+3",
  "-4+2-+6-7+-3+42-2+5-11+44-4+26-6+11-3+57-2+2-3+56-+-9+-+2-8+6-13+10-6+10-6+14-86+48-10+4-3+8",
  "-+29-9+12-2+32-4+2-6+56-+-2+3-+-13+48-8+2-5+15-3+62-5+43-2+11-11+-13+-7+4-+6-+3-2+-5+192-64",
  "+278-2+6-2+38-2+6-2+8-+-+-+-+31-2+53-+15-+14-2+6-+19-2+3-+9-+11-5+24-7+49-16+2-2+27-+13-3+33",
  "-63+140-4+666-22+11-21+1812-2+32-+344-3+2-5+45-+-5+-2+56-7+2-15+23-9+7-+7-+7-+7-+7-+7-+7-+7",
  "-33+94-34+26-+89-12+214-26+58-6+16-+86-4+101-5+43-+94-+86-9+48-+29293-3+55-9+348-20+47-4+-10",
  "+32-2+80-2+6-8+206-2+2-+-+8-21+16-+3-+4-+25-2+5-4+10-6+56-8+68-10+12-24+13-+38-8+25-11+-12",
  "+30-6+48-+2-4+2-2+2-+13-+11-4+7-+25-+41-6+2-2+2-11+3-+8-+-2+10-2+32-+51-+-3+2-2+5-2+-+-24+17",
  "-2+8-11+6-2+6-2+6-9+7-+7-+60-4+117-+2-+4-3+10-6+11172-12+23-4+49-8452+366-2+106-38+7-12+5-5+",
  "-+24-+5-+-+2-+2-+125-16+445-2+54-7+-32+16-16+10-22+35-+19-+4-4+5-+135-4+157-2+31-3+6-2+6-2+6",
  "-2+3-3+7-+7-13+2-2+12-+26-+19-+2-+15-2+14-34+123-5+3-4+45-3+88-+13-3+-47+45-131+29-3+49-16",
  "+27-4+36-9+30-5+38-10+30-+37-4+14-42+158-2+10-6+36-4+36-4+40-8+52-11+12-+15-+7-+2-+11-+15-+7",
  "-+2-3+52-12+311-9+22-10+8-24+6-+42-+9-69+6-2+-+44-+2-3+-2+23-+72-8+9-48+19-+2-5+33-3+27-5+",
  "-64+56-4+20-2+47-15+4-+3-+29-10+9-7+9-7+64-32+37-6+12-9+54-3+29-2+27-5+26-7+4-12+7-80+73-55",
  "+51-13+51-7+42-12+10-6+38-8+24-8+2-208+31-+42-3+-2+2-16+3-59+40-8+22-11+9-22+18-4+4-38+28-20",
  "+23-9+-+54-15+7-4+30-+2-2+-12+49-4+2-2+2-+4-14+25-7+10-9+36-5+-9+18-8+35-+3-11+52-9+-+8-4+2-",
  "+16-+20-11+18-+28-3+2-4+6-+2-63+7-+-+4-+15-+11-6+47-+3-13+10-8+2-+8-2+2-2+22-+7-+2-+5-3+-+-",
  "+4-2+2-2+2-3+-12+7-28+10-+-2+-+38-+-+2-15+-+2-3+-+3-+2-39+56-8+2-3+-+21-+-+3-30+48-+2-6+-+2-",
  "+-2+-2+4-8+10-166+47-+2-6+4-2+-2+27-36+51-8+2-+-2+4-11+10-6+13-19+43-+-+2-8+2-6+10-6+20-28",
  "+27-3+-+2-4+-9+23-185+47-9+-2+-100+83-12+8-2+-2+8-+2-+24-+5-+2-6+4-+3-9+10-70+8-2+42-8+4-+4",
  "-27+-10+40-6+2-4+8-9+-6+2-3+46-13+-2+9-13+73-7+10-182+34-14+10-6+9-+38-14+-+6-10+29-3+32-25+",
  "-7+-2+-75+7-+2-+38-21+-9+10-6+6-+2-+37-4+2-+-+-7+10-310+19-2+4-9+15-+36-8+2-3+23-86+-15+50",
  "-13+923-102+111-+5-11+196-2636+99-13+1072-17+6-25+3995-5+583-6841+30-12+3-3+10-1734+569-7+31",
  "-+10-4+81-+10-6+30-7+-10+48-7+15-10+10-+7-+21-5+19-432+58-198+91-101+75-5+56-11+13-64+4-28",
  "+6136-8+1238-41+10-8935+4-+7-+2-+291-15+-29+3-2+-14+4-8+396-2308+107-5+13-3+9-7+10-2+-2+",
  "-3936+250-6+436-156+116-60+246-10+39-2+60-5+3-22+2-7+30-4+61-21+66-3+-122+20-12+20-12+87-9",
  "+25-135+85-+71-+2-2+-2+2-2+4-+12-+-+7-+65-+4-2+8-+7-+28-+4-+5-+-3+7-+340-2+292-2+562-55+4-50",
  "+8-+14-+7-1140+31-6+6-261+62-146+45-10+7-2+10-4+2-320+30-18+44-4+10-5+-464+28-4+10-214+30-2",
  "+11-4+-480+7-+4-+2-+15-+197-2+9-48+68-7+-4+10-4+2-785+68-76+61-194+4-+27-+2-+-2+-+10-+4-+-+",
  "-6+-4+-+-+-+3-+2-+-2+-+-+-+-+-+2-+-2+4-+7-+4-+4-+-+10-+17-5+3-+5-+17-52+2-270+44-4+100-12+15",
  "-2+15-+15-+37-10+174-56+29-13+44-4+9-7+2-14+6-154+984-4+17-3+13-3+119-4+95-6+12-4+-15+12-4",
  "+56-8+10-6+40-8+30-2+12-4+2-62+340-12+14-2+13-3+10-5+56-7+15-2+11-6+9-7+147-+102-1030+42720",
  "-32+4154-6+222-2+5762-14+7473-15+622-2466+542-1506+4939-5+4192"]

def graphemeExtend : List String := [
  "-768+112-275+7-263+45-+-+2-+2-+-72+11-48+21-16+-101+7-2+6-2+2-+4-35+-30+27-91+11-58+9-9+-24",
  "+4-+9-+3-+5-43+3-59+9-42+24-+32-55+-+-4+8-4+-3+7-10+2-29+-58+-+-2+4-8+-9+-10+2-26+-2+2-57+-4",
  "+2-4+2-2+3-3+-30+2-3+-11+2-57+-4+5-+2-4+-20+2-22+6-+-58+-+2-+4-8+-7+3-10+2-30+-59+-+-12+-9+",
  "-40+-3+-55+-+3-5+3-+4-7+2-11+2-29+-58+-2+2-+-3+3-+4-7+2-11+2-28+2-57+2-+-2+4-8+-9+-10+2-29+",
  "-72+-4+-2+3-+-8+-81+-2+7-12+8-98+-2+9-11+7-73+2-27+-+-+-55+14-+5-+2-5+11-+36-9+-102+4-+6-+2",
  "-2+2-25+2-4+3-16+4-13+-2+2-6+-15+-703+3-946+4-28+3-29+2-30+2-64+2-+7-8+-2+11-9+-45+3-+-117+2",
  "-34+-118+3-4+2-9+-6+3-219+2-2+-58+-+7-+-+-2+8-6+10-2+-48+31-49+4-48+10-4+3-38+9-12+2-32+4-2",
  "+6-56+-+2-3+-+5-56+8-2+2-152+3-+13-+7-4+-6+-3+2-198+64-524+-195+33-3070+3-141+-96+32-554+6",
  "-105+2-30164+4-+10-32+2-80+2-272+-3+-4+-25+2-5+-151+2-26+18-13+-38+8-25+11-+-44+3-48+-2+4-2",
  "+2-2+-36+-67+6-2+2-2+2-12+-8+-47+-51+-+3-2+2-5+2-+-42+2-8+-238+-2+-4+-20272+-737+16-16+16",
  "-366+2-605+-226+-149+5-1670+3-+2-5+4-40+3-4+-165+2-573+4-65+5-317+2-79+4-70+11-49+4-123+-54",
  "+15-41+-2+2-10+3-49+4-2+2-7+-61+3-36+5-+8-62+-12+2-52+9-+-8+4-2+-95+3-2+4-6+-2+-157+-3+8-21",
  "+2-57+2-+-+-12+-9+-14+7-3+5-67+-2+6-+-2+-+3-4+3-+-14+2-85+8-2+3-+-23+-81+-2+6-+-2+-+2-+2-235",
  "+-2+4-6+2-+2-27+2-85+8-2+-+2-106+-+-2+8-101+-+-2+4-+5-259+9-+2-245+-10+4-4+-144+4-2+2-4+-32",
  "+10-40+6-2+4-8+-9+6-2+3-46+13-+2-406+7-+6-+-82+22-2+7-+2-+2-122+6-3+-+2-+7-+-72+2-3+-+-347+2",
  "-11+2-52+5-5+3-23+-5349+-6+15-11464+12-3+3-2496+5-59+7-1048+-63+4-81+-11+2-19627+2-4705+46-2",
  "+23-542+5-3+6-8+8-2+7-30+4-148+3-1979+55-4+50-8+-14+-22+5-+15-1360+7-+17-2+7-+2-+5-100+-160",
  "+7-375+-61+4-508+4-254+2-736+7-109+7-792277+96-128+240"]

def graphemeLink : List String := [
  "-2381+-127+-127+-127+-127+-127+-127+-127+-109+2-16+-124+-111+-127+-201+-180+2-1753+2-30+-157",
  "+-653+-227+-101+2-70+2-4491+-31366+-37+-151+-142+-108+-309+-246+-24145+-1542+-41+-14+-57+",
  "-121+2-139+-116+-180+-98+-128+3-113+-127+-252+-127+-118+-116+-269+-259+2-161+-83+-18+-81+",
  "-421+-260+2-81+-425+2-16876+"]

def hexDigit : List String := [
  "-48+10-7+6-26+6-65193+10-7+6-26+6"]

def hyphen : List String := [
  "-45+-127+-1244+-4731+-2057+2-3589+-739+-52583+-169+-87+"]

def idsBinaryOperator : List String := [
  "-12272+2-2+10-497+"]

def idsTrinaryOperator : List String := [
  "-12274+2"]

def idsUnaryOperator : List String := [
  "-12286+2"]

def idCompatMathContinue : List String := [
  "-178+2-5+-8118+-3+11-+15-371+-4+-22+-111778+-25+-31+-25+-31+-25+-31+-25+-31+-25+"]

def idCompatMathStart : List String := [
  "-8706+-4+-22+-111778+-25+-31+-25+-31+-25+-31+-25+-31+-25+"]

def idContinue : List String := [
  "-48+10-7+26-4+-+26-47+-10+-+-2+-5+23-+31-+458-4+12-14+5-7+-+-17+117-+2-2+4-+-6+5-+-+20-+83-",
  "+139-+5-2+166-+38-2+-6+41-8+45-+-+2-+2-+-8+27-4+4-29+11-5+74-4+102-+8-2+10-+19-2+-16+59-2",
  "+101-14+54-4+-2+-2+46-18+28-4+11-5+24-+6-8+75-+129-2+10-+19-+8-2+2-2+22-+7-+-3+4-2+9-2+2-2+4",
  "-8+-4+2-+5-2+12-10+-+-2+3-+6-4+2-2+22-+7-+2-+2-+2-2+-+5-4+2-2+3-3+-7+4-+-7+16-11+3-+9-+3-+22",
  "-+7-+2-+5-2+10-+3-+3-2+-15+4-2+10-9+7-+3-+8-2+2-2+22-+7-+2-+5-2+9-2+2-2+3-7+3-4+2-+5-2+10-+",
  "-16+2-+6-3+3-+4-3+2-+-+2-3+2-3+3-3+12-4+5-3+3-+4-2+-6+-14+10-16+13-+3-+23-+16-2+9-+3-+4-7+2-",
  "+3-2+-2+4-2+10-16+4-+8-+3-+23-+10-+5-2+9-+3-+4-7+2-6+2-+4-2+10-+3-12+13-+3-+51-+3-+5-5+4-7+5",
  "-2+10-10+6-+3-+18-3+24-+9-+-2+7-3+-4+6-+-+8-6+10-2+2-13+58-5+15-+10-39+2-+-+5-+24-+-+23-2+5-",
  "+-+7-+10-2+4-32+-23+2-6+10-11+-+-+-4+10-+36-4+20-+18-+36-9+-57+74-6+78-2+38-+-5+-2+43-+333-",
  "+4-2+7-+-+4-2+41-+4-2+33-+4-2+7-+-+4-2+15-+57-+4-2+67-2+3-9+9-14+16-16+86-2+6-3+620-2+17-+26",
  "-5+75-3+11-7+22-9+22-11+20-12+13-+3-+2-12+84-3+-4+2-2+10-33+3-+11-6+89-7+43-5+70-10+31-+12-4",
  "+12-10+40-2+5-11+44-4+26-6+11-37+28-4+63-+29-2+11-6+10-13+-8+14-+16-49+77-3+10-17+9-12+116",
  "-12+56-8+10-3+49-2+11-5+43-2+3-16+3-+39-5+534-2+6-2+38-2+6-2+8-+-+-+-+31-2+53-+7-+-3+3-+7-3",
  "+4-2+6-4+13-5+3-+7-15+2-49+2-19+-28+-13+-16+13-51+13-4+-3+12-17+-4+-2+10-+-2+6-6+-+-+-+16-2",
  "+4-5+5-4+-17+41-2679+229-6+9-12+38-+-5+-2+56-7+-15+24-9+7-+7-+7-+7-+7-+7-+7-+7-+32-517+3-25",
  "+15-+5-2+5-4+86-2+7-+95-5+43-+94-17+32-48+16-512+6592-64+22157-67+46-2+269-3+28-20+48-4+10-",
  "+115-37+9-2+103-2+67-2+2-+-+8-21+54-4+-19+52-12+70-10+10-6+24-3+-+49-2+36-12+29-3+65-14+11-6",
  "+31-+55-9+14-2+10-6+23-3+73-24+3-2+16-2+5-10+6-2+6-2+6-9+7-+7-+43-+14-6+123-+2-2+10-6+11172",
  "-12+23-4+49-8452+366-2+106-38+7-12+5-5+12-+13-+5-+-+2-+2-+108-33+363-18+64-2+54-40+12-4+16",
  "-16+16-3+2-24+3-32+5-+135-19+10-7+26-4+-+26-10+90-3+6-2+6-2+6-2+3-35+12-+26-+19-+2-+15-2+14",
  "-34+123-69+53-136+-130+29-3+49-15+-31+32-13+30-5+43-5+30-2+36-4+8-+5-42+158-2+10-6+36-4+36-4",
  "+40-8+52-12+11-+15-+7-+2-+11-+15-+7-+2-3+52-12+311-9+22-10+8-24+6-+42-+9-69+6-2+-+44-+2-3+-2",
  "+23-10+23-9+31-65+19-+2-10+22-10+26-70+56-6+2-64+4-+2-5+8-+3-+29-2+3-4+-32+29-3+29-35+8-+30",
  "-25+54-10+22-10+19-13+18-110+73-55+51-13+51-13+40-8+10-6+38-3+5-+23-250+42-+2-3+2-16+3-55+33",
  "-10+-8+33-31+22-42+21-27+23-9+71-31+16-9+60-7+-13+25-7+10-6+53-+10-4+4-8+36-2+-9+69-4+4-+13-",
  "+-35+18-+37-6+4-62+7-+-+4-+15-+10-7+59-5+10-6+4-+8-2+2-2+22-+7-+2-+5-+10-2+2-2+3-2+-6+-5+7-2",
  "+7-3+5-11+10-+-2+-+38-+10-+-2+-+4-+8-13+2-29+75-5+10-4+4-30+70-+-8+10-166+54-2+9-23+6-34+65",
  "-3+-11+10-38+57-7+10-6+20-28+27-2+15-4+10-6+7-185+59-101+74-21+8-2+-2+8-+2-+30-+2-2+9-12+10",
  "-70+8-2+46-2+8-+2-27+63-8+-8+74-3+-18+73-199+33-15+10-6+9-+45-+9-15+10-24+30-2+22-+14-73+7-",
  "+2-+44-3+-+2-+9-8+10-6+6-+2-+37-+2-+6-7+10-310+23-9+17-+41-3+5-13+11-85+-79+922-102+111-17",
  "+196-2636+97-15+1072-16+22-10+3995-5+583-6841+58-1734+569-7+31-+10-6+79-+10-6+30-2+5-11+55-9",
  "+4-12+10-9+21-5+19-432+45-3+10-198+64-128+75-4+57-7+17-64+2-+2-11+2-14+6136-8+1238-41+10",
  "-8935+4-+7-+2-+291-15+-29+3-2+-14+4-8+396-2308+107-5+13-3+9-7+10-3+2-4177+10-518+46-2+23-542",
  "+5-3+6-8+8-2+7-30+4-148+3-443+85-+71-+2-2+-2+2-2+4-+12-+-+7-+65-+4-2+8-+7-+28-+4-+5-+-3+7-",
  "+340-2+25-+25-+31-+25-+31-+25-+31-+25-+31-+25-+8-2+50-512+55-4+50-8+-14+-22+5-+15-1104+31-6",
  "+6-213+7-+17-2+7-+2-+5-5+62-33+-112+45-3+14-2+10-4+-321+31-17+58-470+42-214+43-485+7-+4-+2-",
  "+15-+197-11+7-41+76-4+10-1190+4-+27-+2-+-2+-+10-+4-+-+-6+-4+-+-+-+3-+2-+-2+-+-+-+-+-+2-+-2+4",
  "-+7-+4-+4-+-+10-+17-5+3-+5-+17-3380+10-1030+42720-32+4154-6+222-2+5762-14+7473-15+622-2466",
  "+542-1506+4939-5+4192-712016+240"]

def idStart : List String := [
  "-65+26-6+26-47+-10+-4+-5+23-+31-+458-4+12-14+5-7+-+-129+5-+2-2+4-+-6+-+3-+-+20-+83-+139-8",
  "+166-+38-2+-6+41-71+27-4+4-45+43-35+2-+99-+-15+2-7+2-10+3-2+-16+-+30-29+89-11+-24+33-9+2-4+",
  "-5+22-4+-9+-3+-23+25-7+11-5+24-+6-17+42-58+54-3+-18+-7+10-15+16-4+8-2+2-2+22-+7-+-3+4-3+-16+",
  "-13+2-+3-14+2-10+-8+6-4+2-2+22-+7-+2-+2-+2-31+4-+-19+3-16+9-+3-+22-+7-+2-+5-3+-18+-15+2-23+",
  "-11+8-2+2-2+22-+7-+2-+5-3+-30+2-+3-15+-17+-+6-3+3-+4-3+2-+-+2-3+2-3+3-3+12-22+-52+8-+3-+23-",
  "+16-3+-26+3-2+-2+2-30+-4+8-+3-+23-+10-+5-3+-31+2-+2-15+2-17+9-+3-+41-2+-16+-5+3-8+3-24+6-5",
  "+18-3+24-+9-+-2+7-58+48-+2-12+7-58+2-+-+5-+24-+-+10-+2-9+-2+5-+-21+4-32+-63+8-+36-27+5-115",
  "+43-20+-16+6-4+4-3+-3+2-7+3-4+13-12+-17+38-+-5+-2+43-+333-+4-2+7-+-+4-2+41-+4-2+33-+4-2+7-+-",
  "+4-2+15-+57-+4-2+67-37+16-16+86-2+6-3+620-2+17-+26-5+75-3+11-7+18-13+19-14+18-14+13-+3-15+52",
  "-35+-4+-67+89-7+41-+-5+70-10+31-49+30-2+5-11+44-4+26-54+23-9+53-82+-93+47-17+8-54+30-13+2-10",
  "+44-26+36-41+3-10+36-2+11-5+43-2+3-41+4-+6-+2-3+-5+192-64+278-2+6-2+38-2+6-2+8-+-+-+-+31-2",
  "+53-+7-+-3+3-+7-3+4-2+6-4+13-5+3-+7-116+-13+-16+13-101+-4+-2+10-+-2+6-6+-+-+-+16-2+4-5+5-4+",
  "-17+41-2679+229-6+4-3+2-12+38-+-5+-2+56-7+-16+23-9+7-+7-+7-+7-+7-+7-+7-+7-550+3-25+9-7+5-2+5",
  "-4+86-4+5-+90-+4-5+43-+94-17+32-48+16-512+6592-64+22157-67+46-2+269-3+16-10+2-20+47-16+31-2",
  "+80-39+9-2+103-2+67-2+2-+-+8-21+16-+3-+4-+23-29+52-14+50-62+6-3+-+2-11+28-10+23-25+29-7+47",
  "-28+-16+5-+10-10+5-+41-23+3-+8-20+23-3+-3+50-+-3+2-2+5-2+-+-24+3-2+11-7+3-12+6-2+6-2+6-9+7-",
  "+7-+43-+14-6+115-29+11172-12+23-4+49-8452+366-2+106-38+7-12+5-5+-+10-+13-+5-+-+2-+2-+108-33",
  "+363-18+64-2+54-40+12-116+5-+135-36+26-6+26-11+89-3+6-2+6-2+6-2+3-35+12-+26-+19-+2-+15-2+14",
  "-34+123-69+53-267+29-3+49-47+32-13+30-5+38-10+30-2+36-4+8-+5-42+158-18+36-4+36-4+40-8+52-12",
  "+11-+15-+7-+2-+11-+15-+7-+2-3+52-12+311-9+22-10+8-24+6-+42-+9-69+6-2+-+44-+2-3+-2+23-10+23-9",
  "+31-65+19-+2-10+22-10+26-70+56-6+2-64+-15+4-+3-+29-42+29-3+29-35+8-+28-27+54-10+22-10+19-13",
  "+18-110+73-55+51-13+51-13+36-38+28-9+23-250+42-6+2-16+3-59+29-10+-8+22-42+18-46+21-27+23-12",
  "+53-57+2-2+-13+45-32+25-26+36-29+-2+-8+35-3+-12+48-14+4-21+-+-35+18-+25-19+2-63+7-+-+4-+15-",
  "+10-7+47-38+8-2+2-2+22-+7-+2-+5-3+-18+-12+5-30+10-+-2+-+38-+-25+-+-44+53-18+4-20+3-30+48-20",
  "+2-+-184+47-41+4-36+48-20+-59+43-13+-71+27-37+7-185+44-116+64-31+8-2+-2+8-+2-+24-15+-+-94+8",
  "-2+39-16+-+-28+-10+40-7+-21+-11+46-19+-18+73-199+33-31+9-+37-17+-49+30-112+7-+2-+38-21+-25+6",
  "-+2-+32-14+-327+19-15+-+13-+34-124+-79+922-102+111-17+196-2636+97-15+1072-17+6-25+3995-5+583",
  "-6841+30-1762+569-7+31-17+79-17+30-18+48-16+4-31+21-5+19-432+45-211+64-128+75-5+-66+13-64+2-",
  "+-28+6136-8+1238-41+10-8935+4-+7-+2-+291-15+-29+3-2+-14+4-8+396-2308+107-5+13-3+9-7+10-5990",
  "+85-+71-+2-2+-2+2-2+4-+12-+-+7-+65-+4-2+8-+7-+28-+4-+5-+-3+7-+340-2+25-+25-+31-+25-+31-+25-",
  "+31-+25-+31-+25-+8-1844+31-6+6-261+62-146+45-10+7-16+-321+30-18+44-484+28-228+30-2+-495+7-+4",
  "-+2-+15-+197-59+68-7+-1204+4-+27-+2-+-2+-+10-+4-+-+-6+-4+-+-+-+3-+2-+-2+-+-+-+-+-+2-+-2+4-+7",
  "-+4-+4-+-+10-+17-5+3-+5-+17-4420+42720-32+4154-6+222-2+5762-14+7473-15+622-2466+542-1506",
  "+4939-5+4192"]

def ideographic : List String := [
  "-12294+2-25+9-14+3-965+6592-64+20992-22784+366-2+106-29962+-27+6136-8+1238-41+10-9319+396",
  "-19716+42720-32+4154-6+222-2+5762-14+7473-15+622-2466+542-1506+4939-5+4192"]

def joinControl : List String := [
  "-8204+2"]

def logicalOrderException : List String := [
  "-3648+5-123+5-2800+3-2+-37114+2-2+-+2"]

def lowercase : List String := [
  "-97+26-47+-10+-4+-36+24-+8-+-+-+-+-+-+-+-+-+-+-+-+-+-+-+-+-+-+-+-+-+-+-+-+-+-+-+-+2-+-+-+-+-",
  "+-+-+-+2-+-+-+-+-+-+-+-+-+-+-+-+-+-+-+-+-+-+-+-+-+-+-+-2+-+-+3-2+-+-2+-3+2-4+-2+-3+3-2+-2+-+",
  "-+-2+-+2-+-2+-3+-+-2+2-2+3-6+-2+-2+-+-+-+-+-+-+-+-+2-+-+-+-+-+-+-+-+-+2-2+-+-3+-+-+-+-+-+-+-",
  "+-+-+-+-+-+-+-+-+-+-+-+-+-+-+-+-+-+-+-+-+-+-+7-2+-2+2-+-4+-+-+-+-+69-+36-7+2-30+5-96+-43+-+",
  "-3+-2+4-18+-27+35-+2-3+3-+-+-+-+-+-+-+-+-+-+-+-+5-+-2+-2+2-51+48-+-+-+-+-+-+-+-+-+-+-+-+-+-+",
  "-+-+-+-9+-+-+-+-+-+-+-+-+-+-+-+-+-+-+-+-+-+-+-+-+-+-+-+-+-+-+-2+-+-+-+-+-+-+2-+-+-+-+-+-+-+-",
  "+-+-+-+-+-+-+-+-+-+-+-+-+-+-+-+-+-+-+-+-+-+-+-+-+-+-+-+-+-+-+-+-+-+-+-+-+-+-+-+-+-48+41-2887",
  "+43-+4-760+6-2178+9-+-117+192-65+-+-+-+-+-+-+-+-+-+-+-+-+-+-+-+-+-+-+-+-+-+-+-+-+-+-+-+-+-+-",
  "+-+-+-+-+-+-+-+-+-+-+-+-+-+-+-+-+-+-+-+-+-+-+-+-+-+-+-+-+-+-+-+-+-+-+-+-+-+-+-+-+-+-+-+-+9-+",
  "-+-+-+-+-+-+-+-+-+-+-+-+-+-+-+-+-+-+-+-+-+-+-+-+-+-+-+-+-+-+-+-+-+-+-+-+-+-+-+-+-+-+-+-+-+-+",
  "-+-+9-8+6-10+8-8+8-8+6-10+8-8+8-8+14-2+8-8+8-8+8-8+5-+2-6+-3+3-+2-8+4-2+2-8+8-10+3-+2-121+",
  "-13+-16+13-109+-3+2-3+-27+-4+-4+-2+2-8+4-4+-33+16-4+-843+26-1862+48-+-3+2-+-+-+-4+-+2-+8-3+-",
  "+-+-+-+-+-+-+-+-+-+-+-+-+-+-+-+-+-+-+-+-+-+-+-+-+-+-+-+-+-+-+-+-+-+-+-+-+-+-+-+-+-+-+-+-+-+-",
  "+-+-+2-7+-+-4+-12+38-+-5+-30995+-+-+-+-+-+-+-+-+-+-+-+-+-+-+-+-+-+-+-+-+-+-+-19+-+-+-+-+-+-+",
  "-+-+-+-+-+-+-+3-133+-+-+-+-+-+-+3-+-+-+-+-+-+-+-+-+-+-+-+-+-+-+-+-+-+-+-+-+-+-+-+-+-+-+-+-+-",
  "+-+10-+-+-2+-+-+-+-+-4+-+-2+-+3-+-+-+-+-+-+-+-+-+-+-5+-5+-+-+-+-+-+-+-+-4+-+-2+-3+-+-+-+-+-+",
  "-22+3-+-+3-821+43-+14-6+80-20288+7-12+5-1065+26-1229+40-136+36-155+11-+15-+7-+2-451+-2+3-+42",
  "-+9-1285+51-125+22-2874+32-21888+32-26010+26-26+7-+18-26+26-26+4-+-+7-+11-26+26-26+26-26+26",
  "-26+26-26+26-26+26-26+26-26+26-26+28-28+25-+6-26+25-+6-26+25-+6-26+25-+6-26+25-+6-+-1844+10-",
  "+20-6+6-261+62-2228+34"]

def math : List String := [
  "-43+-16+3-31+-29+-+-45+-4+-37+-31+-728+3-2+-26+2-2+3-527+3-6669+-27+3-11+-3+-13+-14+4-21+5",
  "-11+5-65+13-4+-3+2-4+5-18+-4+-2+10-+-2+6-6+-3+2-2+2-+3-+6-3+14-+-68+24-+6-+2-4+2-4+32-+-6+2",
  "-14+268-8+4-20+2-90+-30+27-+-24+-11+7-445+2-12+10-4+6-4+2-2+2-3+5-14+-+-2+6-11+8-5+2-57+-+",
  "-29+4-9+3-336+64-256+512-48+21-2+6-53212+-823+6-+-162+-16+3-29+-+-29+-+-131+-6+4-3489+2",
  "-50800+85-+71-+2-2+-2+2-2+4-+12-+-+7-+65-+4-2+8-+7-+28-+4-+5-+-3+7-+340-2+292-2+50-5632+4-",
  "+27-+2-+-2+-+10-+4-+-+-6+-4+-+-+-+3-+2-+-2+-+-+-+-+-+2-+-2+4-+7-+4-+4-+-+10-+17-5+3-+5-+17",
  "-52+2"]

def modifierCombiningMark : List String := [
  "-1620+2-2+-131+-6+-3+2-481+2-+3-3+-31+"]

def noncharacterCodePoint : List String := [
  "-64976+32-526+2-65534+2-65534+2-65534+2-65534+2-65534+2-65534+2-65534+2-65534+2-65534+2",
  "-65534+2-65534+2-65534+2-65534+2-65534+2-65534+2-65534+2"]

def patternSyntax : List String := [
  "-33+15-10+7-26+4-+-26+4-34+7-+-+2-+-+2-4+-4+-3+-23+-31+-7960+24-8+15-2+19-+10-305+720-160",
  "+630-30+1132-512+128-385+3-4+25-15+-52493+2-261+2"]

def patternWhiteSpace : List String := [
  "-9+5-18+-100+-8072+2-24+2"]

def prependedConcatenationMark : List String := [
  "-1536+6-215+-49+-384+2-80+-67546+-15+"]

def quotationMark : List String := [
  "-34+-4+-131+-15+-8028+8-25+2-3591+-457+4-13+3-52769+4-189+-4+-90+2"]

def radical : List String := [
  "-11904+26-+89-12+214"]

def regionalIndicator : List String := [
  "-127462+26"]

def sentenceTerminal : List String := [
  "-33+-12+-16+-1353+-147+3-180+-43+3-246+-61+-+-3+2-293+2-1764+2-790+-4+2-773+-198+2-157+2-45+",
  "-5+-314+2-354+4-162+2-10+2-2+2-29+3-187+2-65+2-932+-23+2-9+3-3247+3-306+-13+-22+2-429+-29948",
  "+-270+2-227+-3+-382+2-86+2-95+-152+2-147+3-144+2-249+-21030+-2+2-59+-3+2-169+-12+-16+-65+",
  "-2804+2-1277+5-44+4-189+2-117+4-127+3-129+2-6+-16+2-88+2-+2-108+-298+2-117+2-373+2-5+15-105",
  "+2-249+3-517+-+-251+2-87+2-420+2-692+2-74+2-19241+2-133+-65+2-11+-553+2-296+-19974+-7656+"]

def softDotted : List String := [
  "-105+2-196+-281+-30+-52+-20+-320+-98+-+-6409+-51+-13+-3+-132+-157+-421+-214+2-2866+-108453+2",
  "-50+2-50+2-50+2-50+2-50+2-50+2-50+2-50+2-50+2-50+2-50+2-50+2-2182+-305+2-26+"]

def terminalPunctuation : List String := [
  "-33+-10+-+-11+2-3+-830+-8+-513+-57+-72+-14+-+3-180+-43+11-+-235+2-54+6-+8-31+-261+2-1268+2",
  "-172+-4+6-311+2-789+8-773+-124+3-71+2-157+3-3+-39+4-2+2-314+2-354+4-162+2-10+2-+3-29+3-187+5",
  "-62+2-932+-23+2-9+3-3247+3-306+-13+-4+-10+-+2-3+2-428+2-29947+2-269+3-227+5-382+2-86+2-95+",
  "-151+3-147+3-127+-16+2-249+-21030+-2+2-57+3-+4-169+-10+-+-11+2-3+-65+-2+-1082+-48+-1158+-199",
  "+-310+2-152+6-68+6-89+4-952+5-44+4-189+7-112+4-127+3-129+2-6+-16+2-88+5-108+-298+2-117+3-12",
  "+2-358+4-3+15-105+2-249+3-517+-+-251+2-87+2-4+2-414+3-45+-645+2-74+2-1323+5-17913+2-133+-65",
  "+3-10+-553+2-295+2-19974+-7655+4"]

def unifiedIdeograph : List String := [
  "-13312+6592-64+20992-23054+2-+-+2-10+-+-+2-2+3-67030+42720-32+4154-6+222-2+5762-14+7473-15",
  "+622-4514+4939-5+4192"]

def uppercase : List String := [
  "-65+26-101+23-+7-33+-+-+-+-+-+-+-+-+-+-+-+-+-+-+-+-+-+-+-+-+-+-+-+-+-+-+-+-2+-+-+-+-+-+-+-+",
  "-2+-+-+-+-+-+-+-+-+-+-+-+-+-+-+-+-+-+-+-+-+-+-+-+2-+-+-3+2-+-+2-+3-2+4-+2-+3-3+2-+2-+-+-+2-+",
  "-2+-+2-+3-+-+2-3+-7+-2+-2+-2+-+-+-+-+-+-+-+-2+-+-+-+-+-+-+-+-+-2+-2+-+3-+-+-+-+-+-+-+-+-+-+-",
  "+-+-+-+-+-+-+-+-+-+-+-+-+-+-+-+-+-+-+-7+2-+2-2+-+4-+-+-+-+-289+-+-3+-8+-6+-+3-+-+2-+17-+9-35",
  "+-2+3-3+-+-+-+-+-+-+-+-+-+-+-+-5+-2+-+2-2+51-48+-+-+-+-+-+-+-+-+-+-+-+-+-+-+-+-+-9+-+-+-+-+-",
  "+-+-+-+-+-+-+-+-+-+-+-+-+-+-+-+-+-+-+-+-+-+-+2-+-+-+-+-+-+-2+-+-+-+-+-+-+-+-+-+-+-+-+-+-+-+-",
  "+-+-+-+-+-+-+-+-+-+-+-+-+-+-+-+-+-+-+-+-+-+-+-+-+-+-+-+-+-+-+-+-2+38-2889+38-+-5+-722+86",
  "-2195+-6+43-2+3-320+-+-+-+-+-+-+-+-+-+-+-+-+-+-+-+-+-+-+-+-+-+-+-+-+-+-+-+-+-+-+-+-+-+-+-+-+",
  "-+-+-+-+-+-+-+-+-+-+-+-+-+-+-+-+-+-+-+-+-+-+-+-+-+-+-+-+-+-+-+-+-+-+-+-+-+-+-9+-+-+-+-+-+-+-",
  "+-+-+-+-+-+-+-+-+-+-+-+-+-+-+-+-+-+-+-+-+-+-+-+-+-+-+-+-+-+-+-+-+-+-+-+-+-+-+-+-+-+-9+8-8+6",
  "-10+8-8+8-8+6-11+-+-+-+-8+8-72+4-12+4-12+4-12+5-11+4-262+-4+-3+3-2+3-2+-3+5-6+-+-+-+4-2+4-10",
  "+2-5+-26+16-19+-818+26-1840+48-48+-+3-2+-+-+-+4-+-2+-8+3-+-+-+-+-+-+-+-+-+-+-+-+-+-+-+-+-+-+",
  "-+-+-+-+-+-+-+-+-+-+-+-+-+-+-+-+-+-+-+-+-+-+-+-+-+-+-+-+-+-+-+-8+-+-4+-31053+-+-+-+-+-+-+-+-",
  "+-+-+-+-+-+-+-+-+-+-+-+-+-+-+-19+-+-+-+-+-+-+-+-+-+-+-+-+-+-135+-+-+-+-+-+-+-3+-+-+-+-+-+-+-",
  "+-+-+-+-+-+-+-+-+-+-+-+-+-+-+-+-+-+-+-+-+-+-+-+-10+-+-+2-+-+-+-+-4+-+-2+-+-3+-+-+-+-+-+-+-+-",
  "+-+-+5-+5-+-+-+-+-+-+-+-+4-+-+2-3+-5+-+-+-+-24+-22315+26-1221+40-136+36-156+11-+15-+7-+2",
  "-1770+51-157+22-2874+32-21888+32-26016+26-26+26-26+26-26+-+2-2+-2+2-2+4-+8-26+26-26+2-+4-2+8",
  "-+7-27+2-+4-+5-+-3+7-27+26-26+26-26+26-26+26-26+26-26+26-30+25-33+25-33+25-33+25-33+25-33+",
  "-4405+34-2062+26-6+26-6+26"]

def variationSelector : List String := [
  "-6155+3-+-58864+16-852720+240"]

def xidContinue : List String := [
  "-48+10-7+26-4+-+26-47+-10+-+-2+-5+23-+31-+458-4+12-14+5-7+-+-17+117-+2-3+3-+-6+5-+-+20-+83-",
  "+139-+5-2+166-+38-2+-6+41-8+45-+-+2-+2-+-8+27-4+4-29+11-5+74-4+102-+8-2+10-+19-2+-16+59-2",
  "+101-14+54-4+-2+-2+46-18+28-4+11-5+24-+6-8+75-+129-2+10-+19-+8-2+2-2+22-+7-+-3+4-2+9-2+2-2+4",
  "-8+-4+2-+5-2+12-10+-+-2+3-+6-4+2-2+22-+7-+2-+2-+2-2+-+5-4+2-2+3-3+-7+4-+-7+16-11+3-+9-+3-+22",
  "-+7-+2-+5-2+10-+3-+3-2+-15+4-2+10-9+7-+3-+8-2+2-2+22-+7-+2-+5-2+9-2+2-2+3-7+3-4+2-+5-2+10-+",
  "-16+2-+6-3+3-+4-3+2-+-+2-3+2-3+3-3+12-4+5-3+3-+4-2+-6+-14+10-16+13-+3-+23-+16-2+9-+3-+4-7+2-",
  "+3-2+-2+4-2+10-16+4-+8-+3-+23-+10-+5-2+9-+3-+4-7+2-6+2-+4-2+10-+3-12+13-+3-+51-+3-+5-5+4-7+5",
  "-2+10-10+6-+3-+18-3+24-+9-+-2+7-3+-4+6-+-+8-6+10-2+2-13+58-5+15-+10-39+2-+-+5-+24-+-+23-2+5-",
  "+-+7-+10-2+4-32+-23+2-6+10-11+-+-+-4+10-+36-4+20-+18-+36-9+-57+74-6+78-2+38-+-5+-2+43-+333-",
  "+4-2+7-+-+4-2+41-+4-2+33-+4-2+7-+-+4-2+15-+57-+4-2+67-2+3-9+9-14+16-16+86-2+6-3+620-2+17-+26",
  "-5+75-3+11-7+22-9+22-11+20-12+13-+3-+2-12+84-3+-4+2-2+10-33+3-+11-6+89-7+43-5+70-10+31-+12-4",
  "+12-10+40-2+5-11+44-4+26-6+11-37+28-4+63-+29-2+11-6+10-13+-8+14-+16-49+77-3+10-17+9-12+116",
  "-12+56-8+10-3+49-2+11-5+43-2+3-16+3-+39-5+534-2+6-2+38-2+6-2+8-+-+-+-+31-2+53-+7-+-3+3-+7-3",
  "+4-2+6-4+13-5+3-+7-15+2-49+2-19+-28+-13+-16+13-51+13-4+-3+12-17+-4+-2+10-+-2+6-6+-+-+-+16-2",
  "+4-5+5-4+-17+41-2679+229-6+9-12+38-+-5+-2+56-7+-15+24-9+7-+7-+7-+7-+7-+7-+7-+7-+32-517+3-25",
  "+15-+5-2+5-4+86-2+2-2+3-+95-5+43-+94-17+32-48+16-512+6592-64+22157-67+46-2+269-3+28-20+48-4",
  "+10-+115-37+9-2+103-2+67-2+2-+-+8-21+54-4+-19+52-12+70-10+10-6+24-3+-+49-2+36-12+29-3+65-14",
  "+11-6+31-+55-9+14-2+10-6+23-3+73-24+3-2+16-2+5-10+6-2+6-2+6-9+7-+7-+43-+14-6+123-+2-2+10-6",
  "+11172-12+23-4+49-8452+366-2+106-38+7-12+5-5+12-+13-+5-+-+2-+2-+108-33+139-6+218-18+64-2+54",
  "-40+10-6+16-16+16-3+2-24+3-33+-+-3+-+-+-+-+126-19+10-7+26-4+-+26-10+90-3+6-2+6-2+6-2+3-35+12",
  "-+26-+19-+2-+15-2+14-34+123-69+53-136+-130+29-3+49-15+-31+32-13+30-5+43-5+30-2+36-4+8-+5-42",
  "+158-2+10-6+36-4+36-4+40-8+52-12+11-+15-+7-+2-+11-+15-+7-+2-3+52-12+311-9+22-10+8-24+6-+42-",
  "+9-69+6-2+-+44-+2-3+-2+23-10+23-9+31-65+19-+2-10+22-10+26-70+56-6+2-64+4-+2-5+8-+3-+29-2+3-4",
  "+-32+29-3+29-35+8-+30-25+54-10+22-10+19-13+18-110+73-55+51-13+51-13+40-8+10-6+38-3+5-+23-250",
  "+42-+2-3+2-16+3-55+33-10+-8+33-31+22-42+21-27+23-9+71-31+16-9+60-7+-13+25-7+10-6+53-+10-4+4",
  "-8+36-2+-9+69-4+4-+13-+-35+18-+37-6+4-62+7-+-+4-+15-+10-7+59-5+10-6+4-+8-2+2-2+22-+7-+2-+5-",
  "+10-2+2-2+3-2+-6+-5+7-2+7-3+5-11+10-+-2+-+38-+10-+-2+-+4-+8-13+2-29+75-5+10-4+4-30+70-+-8+10",
  "-166+54-2+9-23+6-34+65-3+-11+10-38+57-7+10-6+20-28+27-2+15-4+10-6+7-185+59-101+74-21+8-2+-2",
  "+8-+2-+30-+2-2+9-12+10-70+8-2+46-2+8-+2-27+63-8+-8+74-3+-18+73-199+33-15+10-6+9-+45-+9-15+10",
  "-24+30-2+22-+14-73+7-+2-+44-3+-+2-+9-8+10-6+6-+2-+37-+2-+6-7+10-310+23-9+17-+41-3+5-13+11-85",
  "+-79+922-102+111-17+196-2636+97-15+1072-16+22-10+3995-5+583-6841+58-1734+569-7+31-+10-6+79-",
  "+10-6+30-2+5-11+55-9+4-12+10-9+21-5+19-432+45-3+10-198+64-128+75-4+57-7+17-64+2-+2-11+2-14",
  "+6136-8+1238-41+10-8935+4-+7-+2-+291-15+-29+3-2+-14+4-8+396-2308+107-5+13-3+9-7+10-3+2-4177",
  "+10-518+46-2+23-542+5-3+6-8+8-2+7-30+4-148+3-443+85-+71-+2-2+-2+2-2+4-+12-+-+7-+65-+4-2+8-+7",
  "-+28-+4-+5-+-3+7-+340-2+25-+25-+31-+25-+31-+25-+31-+25-+31-+25-+8-2+50-512+55-4+50-8+-14+-22",
  "+5-+15-1104+31-6+6-213+7-+17-2+7-+2-+5-5+62-33+-112+45-3+14-2+10-4+-321+31-17+58-470+42-214",
  "+43-485+7-+4-+2-+15-+197-11+7-41+76-4+10-1190+4-+27-+2-+-2+-+10-+4-+-+-6+-4+-+-+-+3-+2-+-2+-",
  "+-+-+-+-+2-+-2+4-+7-+4-+4-+-+10-+17-5+3-+5-+17-3380+10-1030+42720-32+4154-6+222-2+5762-14",
  "+7473-15+622-2466+542-1506+4939-5+4192-712016+240"]

def xidStart : List String := [
  "-65+26-6+26-47+-10+-4+-5+23-+31-+458-4+12-14+5-7+-+-129+5-+2-3+3-+-6+-+3-+-+20-+83-+139-8",
  "+166-+38-2+-6+41-71+27-4+4-45+43-35+2-+99-+-15+2-7+2-10+3-2+-16+-+30-29+89-11+-24+33-9+2-4+",
  "-5+22-4+-9+-3+-23+25-7+11-5+24-+6-17+42-58+54-3+-18+-7+10-15+16-4+8-2+2-2+22-+7-+-3+4-3+-16+",
  "-13+2-+3-14+2-10+-8+6-4+2-2+22-+7-+2-+2-+2-31+4-+-19+3-16+9-+3-+22-+7-+2-+5-3+-18+-15+2-23+",
  "-11+8-2+2-2+22-+7-+2-+5-3+-30+2-+3-15+-17+-+6-3+3-+4-3+2-+-+2-3+2-3+3-3+12-22+-52+8-+3-+23-",
  "+16-3+-26+3-2+-2+2-30+-4+8-+3-+23-+10-+5-3+-31+2-+2-15+2-17+9-+3-+41-2+-16+-5+3-8+3-24+6-5",
  "+18-3+24-+9-+-2+7-58+48-+-13+7-58+2-+-+5-+24-+-+10-+-10+-2+5-+-21+4-32+-63+8-+36-27+5-115+43",
  "-20+-16+6-4+4-3+-3+2-7+3-4+13-12+-17+38-+-5+-2+43-+333-+4-2+7-+-+4-2+41-+4-2+33-+4-2+7-+-+4",
  "-2+15-+57-+4-2+67-37+16-16+86-2+6-3+620-2+17-+26-5+75-3+11-7+18-13+19-14+18-14+13-+3-15+52",
  "-35+-4+-67+89-7+41-+-5+70-10+31-49+30-2+5-11+44-4+26-54+23-9+53-82+-93+47-17+8-54+30-13+2-10",
  "+44-26+36-41+3-10+36-2+11-5+43-2+3-41+4-+6-+2-3+-5+192-64+278-2+6-2+38-2+6-2+8-+-+-+-+31-2",
  "+53-+7-+-3+3-+7-3+4-2+6-4+13-5+3-+7-116+-13+-16+13-101+-4+-2+10-+-2+6-6+-+-+-+16-2+4-5+5-4+",
  "-17+41-2679+229-6+4-3+2-12+38-+-5+-2+56-7+-16+23-9+7-+7-+7-+7-+7-+7-+7-+7-550+3-25+9-7+5-2+5",
  "-4+86-6+3-+90-+4-5+43-+94-17+32-48+16-512+6592-64+22157-67+46-2+269-3+16-10+2-20+47-16+31-2",
  "+80-39+9-2+103-2+67-2+2-+-+8-21+16-+3-+4-+23-29+52-14+50-62+6-3+-+2-11+28-10+23-25+29-7+47",
  "-28+-16+5-+10-10+5-+41-23+3-+8-20+23-3+-3+50-+-3+2-2+5-2+-+-24+3-2+11-7+3-12+6-2+6-2+6-9+7-",
  "+7-+43-+14-6+115-29+11172-12+23-4+49-8452+366-2+106-38+7-12+5-5+-+10-+13-+5-+-+2-+2-+108-33",
  "+139-6+218-18+64-2+54-40+10-119+-+-3+-+-+-+-+126-36+26-6+26-11+56-2+31-3+6-2+6-2+6-2+3-35+12",
  "-+26-+19-+2-+15-2+14-34+123-69+53-267+29-3+49-47+32-13+30-5+38-10+30-2+36-4+8-+5-42+158-18",
  "+36-4+36-4+40-8+52-12+11-+15-+7-+2-+11-+15-+7-+2-3+52-12+311-9+22-10+8-24+6-+42-+9-69+6-2+-",
  "+44-+2-3+-2+23-10+23-9+31-65+19-+2-10+22-10+26-70+56-6+2-64+-15+4-+3-+29-42+29-3+29-35+8-+28",
  "-27+54-10+22-10+19-13+18-110+73-55+51-13+51-13+36-38+28-9+23-250+42-6+2-16+3-59+29-10+-8+22",
  "-42+18-46+21-27+23-12+53-57+2-2+-13+45-32+25-26+36-29+-2+-8+35-3+-12+48-14+4-21+-+-35+18-+25",
  "-19+2-63+7-+-+4-+15-+10-7+47-38+8-2+2-2+22-+7-+2-+5-3+-18+-12+5-30+10-+-2+-+38-+-25+-+-44+53",
  "-18+4-20+3-30+48-20+2-+-184+47-41+4-36+48-20+-59+43-13+-71+27-37+7-185+44-116+64-31+8-2+-2+8",
  "-+2-+24-15+-+-94+8-2+39-16+-+-28+-10+40-7+-21+-11+46-19+-18+73-199+33-31+9-+37-17+-49+30-112",
  "+7-+2-+38-21+-25+6-+2-+32-14+-327+19-15+-+13-+34-124+-79+922-102+111-17+196-2636+97-15+1072",
  "-17+6-25+3995-5+583-6841+30-1762+569-7+31-17+79-17+30-18+48-16+4-31+21-5+19-432+45-211+64",
  "-128+75-5+-66+13-64+2-+-28+6136-8+1238-41+10-8935+4-+7-+2-+291-15+-29+3-2+-14+4-8+396-2308",
  "+107-5+13-3+9-7+10-5990+85-+71-+2-2+-2+2-2+4-+12-+-+7-+65-+4-2+8-+7-+28-+4-+5-+-3+7-+340-2",
  "+25-+25-+31-+25-+31-+25-+31-+25-+31-+25-+8-1844+31-6+6-261+62-146+45-10+7-16+-321+30-18+44",
  "-484+28-228+30-2+-495+7-+4-+2-+15-+197-59+68-7+-1204+4-+27-+2-+-2+-+10-+4-+-+-6+-4+-+-+-+3-",
  "+2-+-2+-+-+-+-+-+2-+-2+4-+7-+4-+4-+-+10-+17-5+3-+5-+17-4420+42720-32+4154-6+222-2+5762-14",
  "+7473-15+622-2466+542-1506+4939-5+4192"]

end CatalogRules.PropertyTable

import CatalogRules.Character.Runs

/-!
How characters bear on the division of a text into what readers take for single
characters, into words and into sentences. Each division sorts the characters that
matter to it into kinds. The tables mark each run of code points with the letter of
its kind, or with a minus sign if it has none.
-/

namespace CatalogRules

/-- What a text is divided into. -/
inductive Division where
  | graphemes | words | sentences
  deriving DecidableEq

namespace Division

/-- The letter of each kind, and its names without capitals and blanks. -/
def kinds : Division → List (Char × List String)
  | graphemes =>
    [('A', ["cr"]), ('B', ["cn", "control"]), ('C', ["ex", "extend"]), ('D', ["l"]),
     ('E', ["lf"]), ('F', ["lv"]), ('G', ["lvt"]), ('H', ["pp", "prepend"]),
     ('I', ["ri", "regionalindicator"]), ('J', ["sm", "spacingmark"]), ('K', ["t"]),
     ('L', ["v"]), ('M', ["zwj"])]
  | words =>
    [('A', ["le", "aletter"]), ('B', ["cr"]), ('C', ["dq", "doublequote"]), ('D', ["extend"]),
     ('E', ["ex", "extendnumlet"]), ('F', ["fo", "format"]), ('G', ["hl", "hebrewletter"]),
     ('H', ["ka", "katakana"]), ('I', ["lf"]), ('J', ["ml", "midletter"]),
     ('K', ["mn", "midnum"]), ('L', ["mb", "midnumlet"]), ('M', ["nl", "newline"]),
     ('N', ["nu", "numeric"]), ('O', ["ri", "regionalindicator"]), ('P', ["sq", "singlequote"]),
     ('Q', ["wsegspace"]), ('R', ["zwj"])]
  | sentences =>
    [('A', ["at", "aterm"]), ('B', ["cr"]), ('C', ["cl", "close"]), ('D', ["ex", "extend"]),
     ('E', ["fo", "format"]), ('F', ["lf"]), ('G', ["lo", "lower"]), ('H', ["nu", "numeric"]),
     ('I', ["le", "oletter"]), ('J', ["sc", "scontinue"]), ('K', ["st", "sterm"]),
     ('L', ["se", "sep"]), ('M', ["sp"]), ('N', ["up", "upper"])]

def graphemeTable : List String := [
  "B10EB2AB18-95B33-13B-594C112-275C7-263C45-C-C2-C2-C-56H6-10C11-B-46C21-16C-101C7H-C6-2C2-C4",
  "-33H-C-30C27-91C11-58C9-9C-24C4-C9-C3-C5-43C3-52H2-5C9-42C24HC32J-54CJC-J3C8J4CJ2-C7-10C2-29",
  "CJ2-56C-CJ2C4-2J2-2J2C-9C-10C2-26C-2C2J-56C-J3C2-4C2-2C3-3C-30C2-3C-11C2J-56C-J3C5-C2J-J2C",
  "-20C2-22C6-CJ2-56C-C2JC4-2J2-2J2C-7C3-10C2-30C-59CJCJ2-3J3-J3C-9C-40CJ3C-55C-C3J4-C3-C4-7C2",
  "-11C2-29CJ2-56C-JC2JCJ2-C3-C4-7C2-11C2-15J-12C2J2-55C2-CJ2C4-J3-J3CH-8C-10C2-29CJ2-70C-4CJ2",
  "C3-C-J7C-18J2-61C-JC7-12C8-98C-JC9-11C7-73C2-27C-C-C-4J2-49C14JC5-C2-5C11-C36-9C-102C4JC6-C2",
  "J2C2-23J2C2-4C3-16C4-13C-JC2-6C-15C-98D96L72K88-349C3-946C4-28C3-29C2-30C2-64C2JC7J8CJ2C11-9",
  "C-45C3BC-117C2-34C-118C3J4C2J3-4J2CJ6C3-219C2J2C-57JCJC7-C-C-2C8J6C10-2C-48C31-49C4J-47C10J4",
  "C3-38C9-12C2J-30JC4J2C6-56CJC2J3CJC5-48J8C8J2C2-152C3-C13JC7-4C-6C-2JC2-198C64-523BCMB2-24B7",
  "-49B16-96C33-3070C3-141C-96C32-554C6-105C2-30164C4-C10-32C2-80C2-272C-3C-4C-23J2C2J-4C-83J2",
  "-50J16C2-26C18-13C-38C8-25C11JC-12D29-3C3J-47CJ2C4J2C2J2C-36C-67C6J2C2J2C2-12C-8CJ-46C-51C-",
  "C3-2C2-5C2-C-41JC2J2-5JC-236J2CJ2CJ2-JC-18FG27FG27FG27FG27FG27FG27FG27FG27FG27FG27FG27FG27F",
  "G27FG27FG27FG27FG27FG27FG27FG27FG27FG27FG27FG27FG27FG27FG27FG27FG27FG27FG27FG27FG27FG27FG27F",
  "G27FG27FG27FG27FG27FG27FG27FG27FG27FG27FG27FG27FG27FG27FG27FG27FG27FG27FG27FG27FG27FG27FG27F",
  "G27FG27FG27FG27FG27FG27FG27FG27FG27FG27FG27FG27FG27FG27FG27FG27FG27FG27FG27FG27FG27FG27FG27F",
  "G27FG27FG27FG27FG27FG27FG27FG27FG27FG27FG27FG27FG27FG27FG27FG27FG27FG27FG27FG27FG27FG27FG27F",
  "G27FG27FG27FG27FG27FG27FG27FG27FG27FG27FG27FG27FG27FG27FG27FG27FG27FG27FG27FG27FG27FG27FG27F",
  "G27FG27FG27FG27FG27FG27FG27FG27FG27FG27FG27FG27FG27FG27FG27FG27FG27FG27FG27FG27FG27FG27FG27F",
  "G27FG27FG27FG27FG27FG27FG27FG27FG27FG27FG27FG27FG27FG27FG27FG27FG27FG27FG27FG27FG27FG27FG27F",
  "G27FG27FG27FG27FG27FG27FG27FG27FG27FG27FG27FG27FG27FG27FG27FG27FG27FG27FG27FG27FG27FG27FG27F",
  "G27FG27FG27FG27FG27FG27FG27FG27FG27FG27FG27FG27FG27FG27FG27FG27FG27FG27FG27FG27FG27FG27FG27F",
  "G27FG27FG27FG27FG27FG27FG27FG27FG27FG27FG27FG27FG27FG27FG27FG27FG27FG27FG27FG27FG27FG27FG27F",
  "G27FG27FG27FG27FG27FG27FG27FG27FG27FG27FG27FG27FG27FG27FG27FG27FG27FG27FG27FG27FG27FG27FG27F",
  "G27FG27FG27FG27FG27FG27FG27FG27FG27FG27FG27FG27FG27FG27FG27FG27FG27FG27FG27FG27FG27FG27FG27F",
  "G27FG27FG27FG27FG27FG27FG27FG27FG27FG27FG27FG27FG27FG27FG27FG27FG27FG27FG27FG27FG27FG27FG27F",
  "G27FG27FG27FG27FG27FG27FG27FG27FG27FG27FG27FG27FG27FG27FG27FG27FG27FG27FG27FG27FG27FG27FG27F",
  "G27FG27FG27FG27FG27FG27FG27FG27FG27FG27FG27FG27FG27FG27FG27FG27FG27FG27FG27FG27FG27FG27FG27F",
  "G27FG27FG27FG27FG27FG27FG27FG27FG27FG27FG27FG27FG27FG27FG27FG27FG27FG27FG27FG27FG27FG27FG27F",
  "G27FG27FG27FG27FG27FG27FG27FG27FG27FG27FG27FG27FG27FG27FG27FG27FG27FG27FG27-12L23-4K49-8994C",
  "-737C16-16C16-207B-158C2-80B12-513C-226C-149C5-1670C3-C2-5C4-40C3-4C-165C2-573C4-65C5-317C2",
  "-79C4-70C11-49C4-122JCJ-53C15-41C-2C2-10C3J-45J3C4J2C2-2H-4C-10H-50C3-36C5JC8-16J2-44C-12C2J",
  "-48J3C9JC-H2-5C4-JC-92J3C3J2C4-6C-2C-157CJ3C8-21C2J2-55C2-CJCJ4-2J2-2J2C-9C-10J2-2C7-3C5-67C",
  "J2C6-C-2C-C3J-J2C3HC-14C2-82J3C8J2C3JC-23C-81CJ2C6JCJ2CJC2JC2-235CJ2C4-2J4C2JC2-27C2-82J3C8",
  "J2CJC2-106CJCJ2C8-101CJC-2C4JC5-256J3C9JC2-245CJ5-J2-2C4HJHJC-141J3C4-2C2J4C-3J-28C10-40C6JH",
  "C4-8C-9C6J2C3-40H6C13JC2-405JC7-C6JC-82C22-JC7JC2JC2-122C6-3C-C2-C7HC-66J5-C2-J2CJC-347C2J2",
  "-9C2HJ-48J2C5-3J2C3-23C-5333B16C-6C15-11464C12J3C3-2496C5-59C7-556L-3L4-484C-J55-7C4-81C-11",
  "C2-19627C2-B4-4700C46-2C23-542C5-3C6B8C8-2C7-30C4-148C3-1979C55-4C50-8C-14C-22C5-C15-1360C7-",
  "C17-2C7-C2-C5-100C-160C7-375C-61C4-508C4-254C2-736C7-109C7-2203I26-507C5-789504B32C96B128",
  "C240B3600"]

def wordTable : List String := [
  "-10IM2B-18Q-C-4P-4K-L-N10JK-5A26-4E-A26-10M-36A-2F-7A-JA-A-5A23-A31-A480-6A34D112A5-A2-2A4KA",
  "-6AJA3-A-A20-A83-A139-D7A166-A38-2A4-AJA41KA-6D45-D-D2-D2-D-8G27-4G4AJ-11N6-6K2-2D11-F-3A43",
  "D21N10-NK-A2DA99-AD7N-D6A2D2-D4A2N10A3-2A-15A2DA30D27-2A89D11A-14N10A33D9A2-2K-A-2D-2A22D4A",
  "D9AD3AD5-18A25D3-4A11-5A24-A6-N2-5D9A42D24ND33A54D3AD18AD7A10D2-2N10-A16D3-A8-2A2-2A22-A7-A",
  "-3A4-2DAD7-2D2-2D3A-8D-4A2-A3D2-2N10A2-10A-D-2D3-A6-4A2-2A22-A7-A2-A2-A2-2D-D5-4D2-2D3-3D-7",
  "A4-A-7N10D2A3D-11D3-A9-A3-A22-A7-A2-A5-2DAD8-D3-D3-2A-15A2D2-2N10-9AD6-D3-A8-2A2-2A22-A7-A2-",
  "A5-2DAD7-2D2-2D3-7D3-4A2-A3D2-2N10-A-16DA-A6-3A3-A4-3A2-A-A2-3A2-3A3-3A12-4D5-3D3-D4-2A-6D",
  "-14N10-16D5A8-A3-A23-A16-2DAD7-D3-D4-7D2-A3-2A-2A2D2-2N10-16AD3-A8-A3-A23-A10-A5-2DAD7-D3-D4",
  "-7D2-6A2-A2D2-2N10-A2D-12D4A9-A3-A41D2AD7-D3-D4A-5A3D-7A3D2-2N10-10A6-D3-A18-3A24-A9-A-2A7-3",
  "D-4D6-D-D8-6N10-2D2-61D-2D7-12D8-N10-87D-2D9-11D7-N10-38A-23D2-6N10-11D-D-D-4D2A8-A36-4D20-",
  "D2A5D11-D36-9D-100D20-N10-12D4-4D3-D3-2D7-3D4-13D12-DN10D4-2A38-A-5A-2A43-A333-A4-2A7-A-A4-2",
  "A41-A4-2A33-A4-2A7-A-A4-2A15-A57-A4-2A67-2D3-32A16-16A86-2A6-3A620-2A17QA26-5A75-3A11-7A18D4",
  "-9A19D3-11A18D2-12A13-A3-D2-64D32-9D-2N10-33D3FDN10-6A89-7A5D2A34DA-5A70-10A31-D12-4D12-10",
  "N10-128N11-37A23D5-57D10-D29-2DN10-6N10-22D31-49D5A47D17A8-3N10-17D9-12D3A30D13A2N10A44D14",
  "-12A36D20-8N10-3A3N10A36-2A11-5A43-2A3-16D3-D21A4DA6DA2D3A-5A192D64A278-2A6-2A38-2A6-2A8-A-A",
  "-A-A31-2A53-A7-A-3A3-A7-3A4-2A6-4A13-5A3-A7-3Q7-Q3-DRF2-8L2-10L-2JM2F5E-15E2-3K-15E-10QF5-",
  "F10-A-13A-16A13-51D33-17A-4A-2A10-A-3A5-6A-A-A-A4-A11-2A4-5A5-4A-17A41-813A52-1814A229-6A4D3",
  "A2-12A38-A-5A-2A56-7A-15DA23-9A7-A7-A7-A7-A7-A7-A7-A7-D32-47A-464Q-4A-36D6-H5-5A2-92D2H2-3",
  "H91-H4-5A43-A94-17A32-48H16-208H47-H88-27816A1165-67A46-2A269-3A16N10A2-20A47D4-D10-A31D2A80",
  "D2-22A198-2A2-A-A8-21A16DA3DA4DA23D5-4D-19A52-12D2A50D18-10N10-6D18A6-3A-A2DN10A28D8-2A23D13",
  "-12A29-3D4A47D14-14AN10-11D-10N10-6A41D14-9A3DA8D2-2N10-33D3-50D-D3-2D2-5D2-D-30A11D5-2A3D2",
  "-10A6-2A6-2A6-9A7-A7-A58-6A115D8-D2-2N10-6A11172-12A23-4A49-8964A7-12A5-5GDG10-G13-G5-G-G2-",
  "G2-G10A98-33A363-18A64-2A54-40A12-4D16-3J-12D16-3E2-24E3K-L-KJ-26A5-A135-2F-7L-4K-L-N10JK-5",
  "A26-4E-A26-11H56D2A31-3A6-2A6-2A6-2A3-28F3-4A12-A26-A19-A2-A15-2A14-34A123-69A53-136D-130A29",
  "-3A49-15D-31A32-13A30-5A38D5-5A30-2A36-4A8-A5-42A158-2N10-6A36-4A36-4A40-8A52-12A11-A15-A7-",
  "A2-A11-A15-A7-A2-3A52-12A311-9A22-10A8-24A6-A42-A9-69A6-2A-A44-A2-3A-2A23-10A23-9A31-65A19-",
  "A2-10A22-10A26-70A56-6A2-64AD3-D2-5D4A4-A3-A29-2D3-4D-32A29-3A29-35A8-A28D2-25A54-10A22-10",
  "A19-13A18-110A73-55A51-13A51-13A36D4-8N10-6N10A28-3D5-A23-250A42-D2-3A2-16A3-55D4A29-10A-8",
  "A22D11-31A18D4-42A21-27A23-9D3A53D15-31N10DA2D2A-9D4A45D11-2N-4D-10N-2A25-7N10-6D3A36D14-N10",
  "-4AD2A-8A35D-2A-9D3A48D14A4-4D4-D2N10A-A-35A18-A25D12-6DA2D-62A7-A-A4-A15-A10-7A47D12-5N10-6",
  "D4-A8-2A2-2A22-A7-A2-A5-D2AD7-2D2-2D3-2A-6D-5A5D2-2D7-3D5-11A10-A-2A-A38-AD9-D-2D-D4-D5ADA",
  "-13D2-29A53D18A4-5N10-4DA3-30A48D20A2-A-8N10-166A47D7-2D9-23A4D2-34A48D17-3A-11N10-38A43D13A",
  "-7N10-6N20-57D15-4N10-198A44D15-101A64N10-21A8-2A-2A8-A2-A24D6-D2-2D4ADAD2-12N10-70A8-2A39D7",
  "-2D7A-AD-27AD10A40D7AD4-8D-8AD11A46D16-3A-18A73-199A33-15N10-6A9-A37D8-D8A-15N10-24A30-2D22-",
  "D14-73A7-A2-A38D6-3D-D2-D7AD-8N10-6A6-A2-A32D5-D2-D5A-7N10-310A19D4-9D2ADA13-A34D7-3D5-13N10",
  "D-85A-79A922-102A111-17A196-2636A97-15A1072F16DA6D15-10A3995-5A583-6841A30D18N10-1734A569-7",
  "A31-N10-6A79-N10-6A30-2D5-11A48D7-9A4-12N10-9A21-5A19-432A45-3N10-198A64-128A75-4DAD55-7D4",
  "A13-64A2-AD-11D2-16382H4-H7-H2-H-287H3-50H-14H4-2712A107-5A13-3A9-7A10-3D2-F4-4172N10-518D46",
  "-2D23-542D5-3D6F8D8-2D7-30D4-148D3-443A85-A71-A2-2A-2A2-2A4-A12-A-A7-A65-A4-2A8-A7-A28-A4-A5",
  "-A-3A7-A340-2A25-A25-A31-A25-A31-A25-A31-A25-A31-A25-A8-2N50-512D55-4D50-8D-14D-22D5-D15",
  "-1104A31-6A6-213D7-D17-2D7-D2-D5-5A62-33D-112A45-3D7A7-2N10-4A-321A30D-17A44D4N10-470A28D4",
  "N10-214A30D2AN10-485A7-A4-A2-A15-A197-11D7-41A68D7A-4N10-1190A4-A27-A2-A-2A-A10-A4-A-A-6A-4A",
  "-A-A-A3-A2-A-2A-A-A-A-A-A2-A-2A4-A7-A4-A4-A-A10-A17-5A3-A5-A17-628A26-6A26-6A26-92O26-507D5",
  "-2032N10-787463F-30D96-128D240"]

def sentenceTable : List String := [
  "-9MFM2B-18MKC-4C3-2J2A-H10J2-3K-N26C-C-3G26C-C-7L-26M-9GC-E-7G-4GC-4N23-N7G24-G8NGNGNGNGNGNG",
  "NGNGNGNGNGNGNGNGNGNGNGNGNGNGNGNGNGNGNGNGNGNG2NGNGNGNGNGNGNGNG2NGNGNGNGNGNGNGNGNGNGNGNGNGNGNG",
  "NGNGNGNGNGNGNGNGN2GNGNG3N2GNGN2GN3G2N4GN2GN3G3N2GN2GNGNGN2GNG2NGN2GN3GNGN2G2ING3I4N2GN2GN2GN",
  "GNGNGNGNGNGNGNG2NGNGNGNGNGNGNGNGNG2N2GNGN3GNGNGNGNGNGNGNGNGNGNGNGNGNGNGNGNGNGNGNGNGNGNGNGNGN",
  "GNGNGNGNG7N2GN2G2NGN4GNGNGNGNG69IG36I7G2-4I12-14G5-7I-I-17D112NGNGI-NG-2G4JN-6N-N3-N-N2GN17-",
  "N9G35NG2N3G3NGNGNGNGNGNGNGNGNGNGNGNG5NG-NGN2G2N51G48NGNGNGNGNGNGNGNGNGNGNGNGNGNGNGNGNG-D7NGN",
  "GNGNGNGNGNGNGNGNGNGNGNGNGNGNGNGNGNGNGNGNGNGNGNGNGNGN2GNGNGNGNGNGNG2NGNGNGNGNGNGNGNGNGNGNGNGN",
  "GNGNGNGNGNGNGNGNGNGNGNGNGNGNGNGNGNGNGNGNGNGNGNGNGNGNGNGNGNGNGNGNGNGNGNG-N38-2I-3J-2G41K-7D45",
  "-D-D2-D2-D-8I27-4I5-12H6-6J2-2D11-EK3I43D21H10-H2-I2DI99KID7H-D6I2D2-D4I2H10I3-2IK3-12EIDI30",
  "D27-2I89D11I-14H10I33D9I2-2JKI-2D-2I22D4ID9ID3ID5-9K-K-3K2-I25D3-4I11-5I24-I6-H2-5D9I42D24H",
  "D33I54D3ID18ID7I10D2K2H10-I16D3-I8-2I2-2I22-I7-I-3I4-2DID7-2D2-2D3I-8D-4I2-I3D2-2H10I2-10I-D",
  "-2D3-I6-4I2-2I22-I7-I2-I2-I2-2D-D5-4D2-2D3-3D-7I4-I-7H10D2I3D-11D3-I9-I3-I22-I7-I2-I5-2DID8-",
  "D3-D3-2I-15I2D2-2H10-9ID6-D3-I8-2I2-2I22-I7-I2-I5-2DID7-2D2-2D3-7D3-4I2-I3D2-2H10-I-16DI-I6",
  "-3I3-I4-3I2-I-I2-3I2-3I3-3I12-4D5-3D3-D4-2I-6D-14H10-16D5I8-I3-I23-I16-2DID7-D3-D4-7D2-I3-2I",
  "-2I2D2-2H10-16ID3-I8-I3-I23-I10-I5-2DID7-D3-D4-7D2-6I2-I2D2-2H10-I2D-12D4I9-I3-I41D2ID7-D3-",
  "D4I-5I3D-7I3D2-2H10-10I6-D3-I18-3I24-I9-I-2I7-3D-4D6-D-D8-6H10-2D2-13I48DI2D7-5I7D8-H10-39I2",
  "-I-I5-I24-I-I10DI2D9I-2I5-I-D7-H10-2I4-32I-23D2-6H10-11D-D-DC4D2I8-I36-4D20-D2I5D11-D36-9D",
  "-57I43D20IH10K2-4I6D4I4D3ID3I2D7I3D4I13D12IDH10D4-2N38-N-5N-2I43-GI332-I4-2I7-I-I4-2I41-I4-2",
  "I33-I4-2I7-I-I4-2I15-I57-I4-2I67-2D3-2K-4K2-23I16-16N86-2G6-3I620-KI17MI26C2-3I75-3I11-7I18",
  "D4-9I19D3K2-9I18D2-12I13-I3-D2-12I52D32K2-I-4ID-2H10-24JK-4JK-D3EDH10-6I89-7I5D2I34DI-5I70",
  "-10I31-D12-4D12-8K2H10I30-2I5-11I44-4I26-6H11-37I23D5-4I53D10-D29-2DH10-6H10-13IK4-4D31-49D5",
  "I47D17I8-K2H10K2-2K2-11D9-9K3D3I30D13I2H10I44D14-12I36D20-3K2-3H10-3I3H10I36K2G9NG-5I43-2I3",
  "-16D3-D21I4DI6DI2D3I-5G192D64NGNGNGNGNGNGNGNGNGNGNGNGNGNGNGNGNGNGNGNGNGNGNGNGNGNGNGNGNGNGNGN",
  "GNGNGNGNGNGNGNGNGNGNGNGNGNGNGNGNGNGNGNGNGNGNGNGNGNGNGNGNGNGNGNGNGNGNGNGNGNGNGNGNGNGNGNG9NGNG",
  "NGNGNGNGNGNGNGNGNGNGNGNGNGNGNGNGNGNGNGNGNGNGNGNGNGNGNGNGNGNGNGNGNGNGNGNGNGNGNGNGNGNGNGNGNGNG",
  "NG9N8G6-2N6-2G8N8G8N8G6-2N6-2G8-N-N-N-NG8N8G14-2G8N8G8N8G8N8G5-G2N5-G-3G3-G2N5-3G4-2G2N4-4G8",
  "N5-5G3-G2N5-3M11ED2E2-3J2-3C8-4A-3L2E5M-9C2-K2-7C2K3-21ME5-E10-G-11C2G-13C2-G13-51D33-17N-4N",
  "-2GN3G2N3G-N-3N5-6N-N-N-N4-GN4GI4G-2G2N2-5NG4-4G-17N16G16I3NGI4-383C4-29C2-395N26G26-625C6-7",
  "C14-79C2-31C10-403C22-63C4-32C2-514N48G48NGN3G2NGNGNGN4GNG2NG8N3GNGNGNGNGNGNGNGNGNGNGNGNGNGN",
  "GNGNGNGNGNGNGNGNGNGNGNGNGNGNGNGNGNGNGNGNGNGNGNGNGNGNGNGNGNGNGNGNGNGNGNG2-6NGNGD3NG-5K3-4G38-",
  "G-5G-2I56-7I-15DI23-9I7-I7-I7-I7-I7-I7-I7-I7-D32C14-14C2-2C10-4KI-12K-5C-16K2C8-419MJK-2I3",
  "C10-2C8-C3-I9D6-I5-2I5-4I86-2D2-2I3-I90-I4-5I43-I94-17I32-48I16-512I6592-64I22157-67I46-K",
  "I269-K2I16H10I2-20NGNGNGNGNGNGNGNGNGNGNGNGNGNGNGNGNGNGNGNGNGNGNGID4-D10-INGNGNGNGNGNGNGNGNGN",
  "GNGNGNGNG3D2I80D2-K-3K-31I9-2NGNGNGNGNGNGNG3NGNGNGNGNGNGNGNGNGNGNGNGNGNGNGNGNGNGNGNGNGNGNGNG",
  "NGNGNGNGNGNGNG10NGNGN2GNGNGNGNGI-2NGNGINGNG3NGNGNGNGNGNGNGNGNGNGN5GN5GNGNGNGNGNGNGNGN4GNGN2G",
  "-2NG-G-GNGNGNGN-21G3NGIG3I7DI3DI4DI23D5-4D-19I52-2K2-8D2I50D18-8K2H10-6D18I6-3I-I2DH10I28D8-",
  "KI23D13-12I29-3D4I47D14-7K2-5IH10-6I5DI10H10I5-I41D14-9I3DI8D2-2H10-3K3I23-3ID3I50DID3I2D2I5",
  "D2IDI-24I3-2I11D5K2I3D2-10I6-2I6-2I6-9I7-I7-G43-G14-6G80I35D8KD2-2H10-6I11172-12I23-4I49",
  "-8452I366-2I106-38G7-12G5-5IDI10-I13-I5-I-I2-I2-I108-33I363C2-16I64-2I54-40I12-4D16J2KJ2K2C2",
  "-7D16-J2-2C16-2C2-7J2A-J2K2JC6-4J-12I5-I135-2E-K-6C2-2J2A-H10J2-3K-N26C-C-3G26C-C-C2KC2J-I56",
  "D2I31-3I6-2I6-2I6-2I3-28E3-4I12-I26-I19-I2-I15-2I14-34I123-69I53-136D-130I29-3I49-15D-31I32",
  "-13I30-5I38D5-5I30-2I36-4I8-I5-42N40G40I78-2H10-6N36-4G36-4I40-8I52-12N11-N15-N7-N2-G11-G15-",
  "G7-G2-3I52-12I311-9I22-10I8-24GI2G3-G42-G9-69I6-2I-I44-I2-3I-2I23-10I23-9I31-65I19-I2-10I22",
  "-10I26-70I56-6I2-64ID3-D2-5D4I4-I3-I29-2D3-4D-22K2-8I29-3I29-35I8-I28D2-25I54-10I22-10I19-13",
  "I18-110I73-55N51-13G51-13I36D4-8H10-6H10I6N22-3D5-IG22-250I42-D2-3I2-16I3-55D4I29-10I-8I22",
  "D11-4K5-22I18D4K4-38I21-27I23-9D3I53D15K2-29H10DI2D2I-9D4I45D11-2HK4D-10H-2I25-7H10-6D3I36",
  "D14-H10-K3ID2I-8I35D-2I-9D3I48D14I4K2-2D4KD2H10I-I-K2-32I18-I25D12K2-K2-DI2D-62I7-I-I4-I15-",
  "I10K-6I47D12-5H10-6D4-I8-2I2-2I22-I7-I2-I5-D2ID7-2D2-2D3-2I-6D-5I5D2-2D7-3D5-11I10-I-2I-I38-",
  "ID9-D-2D-D4-D5IDIK2-11D2-29I53D18I4K2-3H10-4DI3-30I48D20I2-I-8H10-166I47D7-2D9-K2-5K15I4D2",
  "-34I48D17K2-I-11H10-38I43D13I-7H10-6H20-28I27-2D15-4H10-2K3-I7-185I44D15-101N32G32H10-21I8-2",
  "I-2I8-I2-I24D6-D2-2D4IDID2K-K-9H10-70I8-2I39D7-2D7I-ID-27ID10I40D7ID4-3K2-3D-8ID11I46D16-K2I",
  "-18I73-199I33-15H10-6I9-I37D8-D8IK2-13H10-24I30-2D22-D14-73I7-I2-I38D6-3D-D2-D7ID-8H10-6I6-",
  "I2-I32D5-D2-D5I-7H10-310I19D4K2-7D2IDI13-I34D7-3D5K2-11H10D-85I-79I922-102I111-17I196-2636",
  "I97-15I1072E16DI6D15-10I3995-5I583-6841I30D18H10-1734I569-7I31-H10-4K2I79-H10-6I30-2D5K-10",
  "I48D7K2-7I4K-11H10-9I21-5I19-432I45-K2H10-198N32G32-24K-103I75-4DID55-7D4I13-64I2-ID-11D2-14",
  "I6136-8I1238-41I10-8935I4-I7-I2-I291-15I-29I3-2I-14I4-8I396-2308I107-5I13-3I9-7I10-3D2KE4",
  "-4172H10-518D46-2D23-542D5-3D6E8D8-2D7-30D4-148D3-443N26G26N26G7-G18N26G26N-N2-2N-2N2-2N4-N8",
  "G4-G-G7-G11N26G26N2-N4-2N8-N7-G26N2-N4-N5-N-3N7-G26N26G26N26G26N26G26N26G26N26G26N26G28-2N25",
  "-G25-G6N25-G25-G6N25-G25-G6N25-G25-G6N25-G25-G6NG-2H50-512D55-4D50-8D-14D-3K-18D5-D15-1104",
  "G10IG20-6G6-213D7-D17-2D7-D2-D5-5G62-33D-112I45-3D7I7-2H10-4I-321I30D-17I44D4H10-470I28D4H10",
  "-214I30D2IH10-485I7-I4-I2-I15-I197-11D7-41N34G34D7I-4H10-1190I4-I27-I2-I-2I-I10-I4-I-I-6I-4I",
  "-I-I-I3-I2-I-2I-I-I-I-I-I2-I-2I4-I7-I4-I4-I-I10-I17-5I3-I5-I17-628N26-6N26-6N26-1260C3-1399",
  "H10-1030I42720-32I4154-6I222-2I5762-14I7473-15I622-2466I542-1506I4939-5I4192-711761E-30D96",
  "-128D240"]

def graphemeRuns : Runs (List Char) := Runs.read 1 id graphemeTable

def wordRuns : Runs (List Char) := Runs.read 1 id wordTable

def sentenceRuns : Runs (List Char) := Runs.read 1 id sentenceTable

def runs : Division → Runs (List Char)
  | graphemes => graphemeRuns
  | words => wordRuns
  | sentences => sentenceRuns

end Division

structure DivisionKind where
  division : Division
  letter : Char
  deriving DecidableEq

namespace DivisionKind

def named? (d : Division) (name : String) : Option DivisionKind :=
  (d.kinds.find? (fun k => name ∈ k.2)).map (fun k => ⟨d, k.1⟩)

def holds (k : DivisionKind) (c : Char) : Bool := k.division.runs.at? c.toNat == some [k.letter]

end DivisionKind

end CatalogRules

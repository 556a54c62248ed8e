/-!
The general categories of Unicode 14.0 as runs of consecutive code points, folded to the eight
classes that the library tells apart. A run is written as `8 · start + class` and ends where the
next one starts; the classes are 0 letter, 1 mark (spacing or not), 2 decimal digit, 3 letter
number, 4 other number, 5 connector, 6 invisible (controls, separators, unassigned), 7 all else.
-/
namespace HttpContract.Text.CategoryTable

set_option maxRecDepth 20000 in
def runs : Array Nat := #[
  0x6, 0x10f, 0x182, 0x1d7, 0x208, 0x2df, 0x2fd, 0x307, 0x308, 0x3df, 0x3fe, 0x50f,
  0x550, 0x55f, 0x56e, 0x577, 0x594, 0x5a7, 0x5a8, 0x5b7, 0x5cc, 0x5d0, 0x5df, 0x5e4,
  0x5ff, 0x600, 0x6bf, 0x6c0, 0x7bf, 0x7c0, 0x1617, 0x1630, 0x1697, 0x1700, 0x172f, 0x1760,
  0x176f, 0x1770, 0x177f, 0x1801, 0x1b80, 0x1baf, 0x1bb0, 0x1bc6, 0x1bd0, 0x1bf7, 0x1bf8, 0x1c06,
  0x1c27, 0x1c30, 0x1c3f, 0x1c40, 0x1c5e, 0x1c60, 0x1c6e, 0x1c70, 0x1d16, 0x1d18, 0x1fb7, 0x1fb8,
  0x2417, 0x2419, 0x2447, 0x2450, 0x2986, 0x2988, 0x2abe, 0x2ac8, 0x2ad7, 0x2b00, 0x2c4f, 0x2c5e,
  0x2c6f, 0x2c86, 0x2c89, 0x2df7, 0x2df9, 0x2e07, 0x2e09, 0x2e1f, 0x2e21, 0x2e37, 0x2e39, 0x2e46,
  0x2e80, 0x2f5e, 0x2f78, 0x2f9f, 0x2fae, 0x3037, 0x3081, 0x30df, 0x30e6, 0x30ef, 0x3100, 0x3259,
  0x3302, 0x3357, 0x3370, 0x3381, 0x3388, 0x36a7, 0x36a8, 0x36b1, 0x36ee, 0x36f7, 0x36f9, 0x3728,
  0x3739, 0x374f, 0x3751, 0x3770, 0x3782, 0x37d0, 0x37ef, 0x37f8, 0x3807, 0x3876, 0x3880, 0x3889,
  0x3890, 0x3981, 0x3a5e, 0x3a68, 0x3d31, 0x3d88, 0x3d96, 0x3e02, 0x3e50, 0x3f59, 0x3fa0, 0x3fb7,
  0x3fd0, 0x3fde, 0x3fe9, 0x3ff7, 0x4000, 0x40b1, 0x40d0, 0x40d9, 0x4120, 0x4129, 0x4140, 0x4149,
  0x4176, 0x4187, 0x41fe, 0x4200, 0x42c9, 0x42e6, 0x42f7, 0x42fe, 0x4300, 0x435e, 0x4380, 0x4447,
  0x4448, 0x447e, 0x44c1, 0x4500, 0x4651, 0x4716, 0x4719, 0x4820, 0x49d1, 0x49e8, 0x49f1, 0x4a80,
  0x4a89, 0x4ac0, 0x4b11, 0x4b27, 0x4b32, 0x4b87, 0x4b88, 0x4c09, 0x4c26, 0x4c28, 0x4c6e, 0x4c78,
  0x4c8e, 0x4c98, 0x4d4e, 0x4d50, 0x4d8e, 0x4d90, 0x4d9e, 0x4db0, 0x4dd6, 0x4de1, 0x4de8, 0x4df1,
  0x4e2e, 0x4e39, 0x4e4e, 0x4e59, 0x4e70, 0x4e7e, 0x4eb9, 0x4ec6, 0x4ee0, 0x4ef6, 0x4ef8, 0x4f11,
  0x4f26, 0x4f32, 0x4f80, 0x4f97, 0x4fa4, 0x4fd7, 0x4fe0, 0x4fef, 0x4ff1, 0x4ffe, 0x5009, 0x5026,
  0x5028, 0x505e, 0x5078, 0x508e, 0x5098, 0x514e, 0x5150, 0x518e, 0x5190, 0x51a6, 0x51a8, 0x51be,
  0x51c0, 0x51d6, 0x51e1, 0x51ee, 0x51f1, 0x521e, 0x5239, 0x524e, 0x5259, 0x5276, 0x5289, 0x5296,
  0x52c8, 0x52ee, 0x52f0, 0x52fe, 0x5332, 0x5381, 0x5390, 0x53a9, 0x53b7, 0x53be, 0x5409, 0x5426,
  0x5428, 0x5476, 0x5478, 0x5496, 0x5498, 0x554e, 0x5550, 0x558e, 0x5590, 0x55a6, 0x55a8, 0x55d6,
  0x55e1, 0x55e8, 0x55f1, 0x5636, 0x5639, 0x5656, 0x5659, 0x5676, 0x5680, 0x568e, 0x5700, 0x5711,
  0x5726, 0x5732, 0x5787, 0x5796, 0x57c8, 0x57d1, 0x5806, 0x5809, 0x5826, 0x5828, 0x586e, 0x5878,
  0x588e, 0x5898, 0x594e, 0x5950, 0x598e, 0x5990, 0x59a6, 0x59a8, 0x59d6, 0x59e1, 0x59e8, 0x59f1,
  0x5a2e, 0x5a39, 0x5a4e, 0x5a59, 0x5a76, 0x5aa9, 0x5ac6, 0x5ae0, 0x5af6, 0x5af8, 0x5b11, 0x5b26,
  0x5b32, 0x5b87, 0x5b88, 0x5b94, 0x5bc6, 0x5c11, 0x5c18, 0x5c26, 0x5c28, 0x5c5e, 0x5c70, 0x5c8e,
  0x5c90, 0x5cb6, 0x5cc8, 0x5cde, 0x5ce0, 0x5cee, 0x5cf0, 0x5d06, 0x5d18, 0x5d2e, 0x5d40, 0x5d5e,
  0x5d70, 0x5dd6, 0x5df1, 0x5e1e, 0x5e31, 0x5e4e, 0x5e51, 0x5e76, 0x5e80, 0x5e8e, 0x5eb9, 0x5ec6,
  0x5f32, 0x5f84, 0x5f9f, 0x5fde, 0x6001, 0x6028, 0x606e, 0x6070, 0x608e, 0x6090, 0x614e, 0x6150,
  0x61d6, 0x61e1, 0x61e8, 0x61f1, 0x622e, 0x6231, 0x624e, 0x6251, 0x6276, 0x62a9, 0x62be, 0x62c0,
  0x62de, 0x62e8, 0x62f6, 0x6300, 0x6311, 0x6326, 0x6332, 0x6386, 0x63bf, 0x63c4, 0x63ff, 0x6400,
  0x6409, 0x6427, 0x6428, 0x646e, 0x6470, 0x648e, 0x6490, 0x654e, 0x6550, 0x65a6, 0x65a8, 0x65d6,
  0x65e1, 0x65e8, 0x65f1, 0x662e, 0x6631, 0x664e, 0x6651, 0x6676, 0x66a9, 0x66be, 0x66e8, 0x66fe,
  0x6700, 0x6711, 0x6726, 0x6732, 0x6786, 0x6788, 0x679e, 0x6801, 0x6820, 0x686e, 0x6870, 0x688e,
  0x6890, 0x69d9, 0x69e8, 0x69f1, 0x6a2e, 0x6a31, 0x6a4e, 0x6a51, 0x6a70, 0x6a7f, 0x6a86, 0x6aa0,
  0x6ab9, 0x6ac4, 0x6af8, 0x6b11, 0x6b26, 0x6b32, 0x6b84, 0x6bcf, 0x6bd0, 0x6c06, 0x6c09, 0x6c26,
  0x6c28, 0x6cbe, 0x6cd0, 0x6d96, 0x6d98, 0x6de6, 0x6de8, 0x6df6, 0x6e00, 0x6e3e, 0x6e51, 0x6e5e,
  0x6e79, 0x6eae, 0x6eb1, 0x6ebe, 0x6ec1, 0x6f06, 0x6f32, 0x6f86, 0x6f91, 0x6fa7, 0x6fae, 0x7008,
  0x7189, 0x7190, 0x71a1, 0x71de, 0x71ff, 0x7200, 0x7239, 0x727f, 0x7282, 0x72d7, 0x72e6, 0x7408,
  0x741e, 0x7420, 0x742e, 0x7430, 0x745e, 0x7460, 0x7526, 0x7528, 0x7536, 0x7538, 0x7589, 0x7590,
  0x75a1, 0x75e8, 0x75f6, 0x7600, 0x762e, 0x7630, 0x763e, 0x7641, 0x7676, 0x7682, 0x76d6, 0x76e0,
  0x7706, 0x7800, 0x780f, 0x78c1, 0x78d7, 0x7902, 0x7954, 0x79a7, 0x79a9, 0x79b7, 0x79b9, 0x79c7,
  0x79c9, 0x79d7, 0x79f1, 0x7a00, 0x7a46, 0x7a48, 0x7b6e, 0x7b89, 0x7c2f, 0x7c31, 0x7c40, 0x7c69,
  0x7cc6, 0x7cc9, 0x7dee, 0x7df7, 0x7e31, 0x7e3f, 0x7e6e, 0x7e77, 0x7ede, 0x8000, 0x8159, 0x81f8,
  0x8202, 0x8257, 0x8280, 0x82b1, 0x82d0, 0x82f1, 0x8308, 0x8311, 0x8328, 0x8339, 0x8370, 0x8389,
  0x83a8, 0x8411, 0x8470, 0x8479, 0x8482, 0x84d1, 0x84f7, 0x8500, 0x8636, 0x8638, 0x8646, 0x8668,
  0x8676, 0x8680, 0x87df, 0x87e0, 0x924e, 0x9250, 0x9276, 0x9280, 0x92be, 0x92c0, 0x92ce, 0x92d0,
  0x92f6, 0x9300, 0x944e, 0x9450, 0x9476, 0x9480, 0x958e, 0x9590, 0x95b6, 0x95c0, 0x95fe, 0x9600,
  0x960e, 0x9610, 0x9636, 0x9640, 0x96be, 0x96c0, 0x988e, 0x9890, 0x98b6, 0x98c0, 0x9ade, 0x9ae9,
  0x9b07, 0x9b4c, 0x9bee, 0x9c00, 0x9c87, 0x9cd6, 0x9d00, 0x9fb6, 0x9fc0, 0x9ff6, 0xa007, 0xa008,
  0xb36f, 0xb378, 0xb406, 0xb408, 0xb4df, 0xb4ee, 0xb500, 0xb75f, 0xb773, 0xb788, 0xb7ce, 0xb800,
  0xb891, 0xb8b6, 0xb8f8, 0xb991, 0xb9af, 0xb9be, 0xba00, 0xba91, 0xbaa6, 0xbb00, 0xbb6e, 0xbb70,
  0xbb8e, 0xbb91, 0xbba6, 0xbc00, 0xbda1, 0xbea7, 0xbeb8, 0xbec7, 0xbee0, 0xbee9, 0xbef6, 0xbf02,
  0xbf56, 0xbf84, 0xbfd6, 0xc007, 0xc059, 0xc076, 0xc079, 0xc082, 0xc0d6, 0xc100, 0xc3ce, 0xc400,
  0xc429, 0xc438, 0xc549, 0xc550, 0xc55e, 0xc580, 0xc7b6, 0xc800, 0xc8fe, 0xc901, 0xc966, 0xc981,
  0xc9e6, 0xca07, 0xca0e, 0xca27, 0xca32, 0xca80, 0xcb76, 0xcb80, 0xcbae, 0xcc00, 0xcd66, 0xcd80,
  0xce56, 0xce82, 0xced4, 0xcede, 0xcef7, 0xd000, 0xd0b9, 0xd0e6, 0xd0f7, 0xd100, 0xd2a9, 0xd2fe,
  0xd301, 0xd3ee, 0xd3f9, 0xd402, 0xd456, 0xd482, 0xd4d6, 0xd507, 0xd538, 0xd547, 0xd576, 0xd581,
  0xd5f7, 0xd5f9, 0xd67e, 0xd801, 0xd828, 0xd9a1, 0xda28, 0xda6e, 0xda82, 0xdad7, 0xdb59, 0xdba7,
  0xdbfe, 0xdc01, 0xdc18, 0xdd09, 0xdd70, 0xdd82, 0xddd0, 0xdf31, 0xdfa6, 0xdfe7, 0xe000, 0xe121,
  0xe1c6, 0xe1df, 0xe202, 0xe256, 0xe268, 0xe282, 0xe2d0, 0xe3f7, 0xe400, 0xe44e, 0xe480, 0xe5de,
  0xe5e8, 0xe607, 0xe646, 0xe681, 0xe69f, 0xe6a1, 0xe748, 0xe769, 0xe770, 0xe7a1, 0xe7a8, 0xe7b9,
  0xe7d0, 0xe7de, 0xe800, 0xee01, 0xf000, 0xf8b6, 0xf8c0, 0xf8f6, 0xf900, 0xfa36, 0xfa40, 0xfa76,
  0xfa80, 0xfac6, 0xfac8, 0xfad6, 0xfad8, 0xfae6, 0xfae8, 0xfaf6, 0xfaf8, 0xfbf6, 0xfc00, 0xfdae,
  0xfdb0, 0xfdef, 0xfdf0, 0xfdff, 0xfe10, 0xfe2e, 0xfe30, 0xfe6f, 0xfe80, 0xfea6, 0xfeb0, 0xfee6,
  0xfeef, 0xff00, 0xff6f, 0xff86, 0xff90, 0xffae, 0xffb0, 0xffef, 0xfffe, 0x10087, 0x10146, 0x10187,
  0x101fd, 0x1020f, 0x102a5, 0x102af, 0x102fe, 0x10384, 0x10388, 0x10396, 0x103a4, 0x103d7, 0x103f8, 0x10404,
  0x10457, 0x1047e, 0x10480, 0x104ee, 0x10507, 0x1060e, 0x10681, 0x106ef, 0x10709, 0x10717, 0x10729, 0x1078e,
  0x10807, 0x10810, 0x1081f, 0x10838, 0x10847, 0x10850, 0x108a7, 0x108a8, 0x108b7, 0x108c8, 0x108f7, 0x10920,
  0x1092f, 0x10930, 0x1093f, 0x10940, 0x1094f, 0x10950, 0x10977, 0x10978, 0x109d7, 0x109e0, 0x10a07, 0x10a28,
  0x10a57, 0x10a70, 0x10a7f, 0x10a84, 0x10b03, 0x10c18, 0x10c2b, 0x10c4c, 0x10c57, 0x10c66, 0x10c87, 0x1213e,
  0x12207, 0x1225e, 0x12304, 0x124e7, 0x12754, 0x12807, 0x13bb4, 0x13ca7, 0x15ba6, 0x15bb7, 0x15cb6, 0x15cbf,
  0x16000, 0x1672f, 0x16758, 0x16779, 0x16790, 0x167a6, 0x167cf, 0x167ec, 0x167f7, 0x16800, 0x16936, 0x16938,
  0x16946, 0x16968, 0x16976, 0x16980, 0x16b46, 0x16b78, 0x16b87, 0x16b8e, 0x16bf9, 0x16c00, 0x16cbe, 0x16d00,
  0x16d3e, 0x16d40, 0x16d7e, 0x16d80, 0x16dbe, 0x16dc0, 0x16dfe, 0x16e00, 0x16e3e, 0x16e40, 0x16e7e, 0x16e80,
  0x16ebe, 0x16ec0, 0x16efe, 0x16f01, 0x17007, 0x17178, 0x17187, 0x172f6, 0x17407, 0x174d6, 0x174df, 0x177a6,
  0x17807, 0x17eb6, 0x17f87, 0x17fe6, 0x1800f, 0x18028, 0x1803b, 0x18047, 0x1810b, 0x18151, 0x18187, 0x18188,
  0x181b7, 0x181c3, 0x181d8, 0x181ef, 0x18206, 0x18208, 0x184be, 0x184c9, 0x184df, 0x184e8, 0x18507, 0x18508,
  0x187df, 0x187e0, 0x18806, 0x18828, 0x18986, 0x18988, 0x18c7e, 0x18c87, 0x18c94, 0x18cb7, 0x18d00, 0x18e07,
  0x18f26, 0x18f80, 0x19007, 0x190fe, 0x19104, 0x19157, 0x19244, 0x19287, 0x1928c, 0x19307, 0x19404, 0x19457,
  0x1958c, 0x19607, 0x1a000, 0x26e07, 0x27000, 0x5246e, 0x52487, 0x5263e, 0x52680, 0x527f7, 0x52800, 0x5306f,
  0x53080, 0x53102, 0x53150, 0x53166, 0x53200, 0x53379, 0x53387, 0x533a1, 0x533f7, 0x533f8, 0x534f1, 0x53500,
  0x53733, 0x53781, 0x53797, 0x537c6, 0x53807, 0x538b8, 0x53907, 0x53910, 0x53c4f, 0x53c58, 0x53e5e, 0x53e80,
  0x53e96, 0x53e98, 0x53ea6, 0x53ea8, 0x53ed6, 0x53f90, 0x54011, 0x54018, 0x54031, 0x54038, 0x54059, 0x54060,
  0x54119, 0x54147, 0x54161, 0x5416e, 0x54184, 0x541b7, 0x541d6, 0x54200, 0x543a7, 0x543c6, 0x54401, 0x54410,
  0x545a1, 0x54636, 0x54677, 0x54682, 0x546d6, 0x54701, 0x54790, 0x547c7, 0x547d8, 0x547e7, 0x547e8, 0x547f9,
  0x54802, 0x54850, 0x54931, 0x54977, 0x54980, 0x54a39, 0x54aa6, 0x54aff, 0x54b00, 0x54bee, 0x54c01, 0x54c20,
  0x54d99, 0x54e0f, 0x54e76, 0x54e78, 0x54e82, 0x54ed6, 0x54ef7, 0x54f00, 0x54f29, 0x54f30, 0x54f82, 0x54fd0,
  0x54ffe, 0x55000, 0x55149, 0x551be, 0x55200, 0x55219, 0x55220, 0x55261, 0x55276, 0x55282, 0x552d6, 0x552e7,
  0x55300, 0x553bf, 0x553d0, 0x553d9, 0x553f0, 0x55581, 0x55588, 0x55591, 0x555a8, 0x555b9, 0x555c8, 0x555f1,
  0x55600, 0x55609, 0x55610, 0x5561e, 0x556d8, 0x556f7, 0x55700, 0x55759, 0x55787, 0x55790, 0x557a9, 0x557be,
  0x55808, 0x5583e, 0x55848, 0x5587e, 0x55888, 0x558be, 0x55900, 0x5593e, 0x55940, 0x5597e, 0x55980, 0x55adf,
  0x55ae0, 0x55b57, 0x55b66, 0x55b80, 0x55f19, 0x55f5f, 0x55f61, 0x55f76, 0x55f82, 0x55fd6, 0x56000, 0x6bd26,
  0x6bd80, 0x6be3e, 0x6be58, 0x6bfe6, 0x7c800, 0x7d376, 0x7d380, 0x7d6d6, 0x7d800, 0x7d83e, 0x7d898, 0x7d8c6,
  0x7d8e8, 0x7d8f1, 0x7d8f8, 0x7d94f, 0x7d950, 0x7d9be, 0x7d9c0, 0x7d9ee, 0x7d9f0, 0x7d9fe, 0x7da00, 0x7da16,
  0x7da18, 0x7da2e, 0x7da30, 0x7dd97, 0x7de1e, 0x7de98, 0x7e9f7, 0x7ea80, 0x7ec86, 0x7ec90, 0x7ee46, 0x7ee7f,
  0x7ee86, 0x7ef80, 0x7efe7, 0x7f001, 0x7f087, 0x7f0d6, 0x7f101, 0x7f187, 0x7f19d, 0x7f1af, 0x7f26d, 0x7f287,
  0x7f29e, 0x7f2a7, 0x7f33e, 0x7f347, 0x7f366, 0x7f380, 0x7f3ae, 0x7f3b0, 0x7f7ee, 0x7f80f, 0x7f882, 0x7f8d7,
  0x7f908, 0x7f9df, 0x7f9fd, 0x7fa07, 0x7fa08, 0x7fadf, 0x7fb30, 0x7fdfe, 0x7fe10, 0x7fe46, 0x7fe50, 0x7fe86,
  0x7fe90, 0x7fec6, 0x7fed0, 0x7feee, 0x7ff07, 0x7ff3e, 0x7ff47, 0x7ff7e, 0x7ffe7, 0x7fff6, 0x80000, 0x80066,
  0x80068, 0x8013e, 0x80140, 0x801de, 0x801e0, 0x801f6, 0x801f8, 0x80276, 0x80280, 0x802f6, 0x80400, 0x807de,
  0x80807, 0x8081e, 0x8083c, 0x809a6, 0x809bf, 0x80a03, 0x80bac, 0x80bcf, 0x80c54, 0x80c67, 0x80c7e, 0x80c87,
  0x80cee, 0x80d07, 0x80d0e, 0x80e87, 0x80fe9, 0x80ff6, 0x81400, 0x814ee, 0x81500, 0x8168e, 0x81701, 0x8170c,
  0x817e6, 0x81800, 0x81904, 0x81926, 0x81968, 0x81a0b, 0x81a10, 0x81a53, 0x81a5e, 0x81a80, 0x81bb1, 0x81bde,
  0x81c00, 0x81cf6, 0x81cff, 0x81d00, 0x81e26, 0x81e40, 0x81e87, 0x81e8b, 0x81eb6, 0x82000, 0x824f6, 0x82502,
  0x82556, 0x82580, 0x826a6, 0x826c0, 0x827e6, 0x82800, 0x82946, 0x82980, 0x82b26, 0x82b7f, 0x82b80, 0x82bde,
  0x82be0, 0x82c5e, 0x82c60, 0x82c9e, 0x82ca0, 0x82cb6, 0x82cb8, 0x82d16, 0x82d18, 0x82d96, 0x82d98, 0x82dd6,
  0x82dd8, 0x82dee, 0x83000, 0x839be, 0x83a00, 0x83ab6, 0x83b00, 0x83b46, 0x83c00, 0x83c36, 0x83c38, 0x83d8e,
  0x83d90, 0x83dde, 0x84000, 0x84036, 0x84040, 0x8404e, 0x84050, 0x841b6, 0x841b8, 0x841ce, 0x841e0, 0x841ee,
  0x841f8, 0x842b6, 0x842bf, 0x842c4, 0x84300, 0x843bf, 0x843cc, 0x84400, 0x844fe, 0x8453c, 0x84586, 0x84700,
  0x8479e, 0x847a0, 0x847b6, 0x847dc, 0x84800, 0x848b4, 0x848e6, 0x848ff, 0x84900, 0x849d6, 0x849ff, 0x84a06,
  0x84c00, 0x84dc6, 0x84de4, 0x84df0, 0x84e04, 0x84e86, 0x84e94, 0x85000, 0x85009, 0x85026, 0x85029, 0x8503e,
  0x85061, 0x85080, 0x850a6, 0x850a8, 0x850c6, 0x850c8, 0x851b6, 0x851c1, 0x851de, 0x851f9, 0x85204, 0x8524e,
  0x85287, 0x852ce, 0x85300, 0x853ec, 0x853ff, 0x85400, 0x854ec, 0x85506, 0x85600, 0x85647, 0x85648, 0x85729,
  0x8573e, 0x8575c, 0x85787, 0x857be, 0x85800, 0x859b6, 0x859cf, 0x85a00, 0x85ab6, 0x85ac4, 0x85b00, 0x85b9e,
  0x85bc4, 0x85c00, 0x85c96, 0x85ccf, 0x85cee, 0x85d4c, 0x85d86, 0x86000, 0x8624e, 0x86400, 0x8659e, 0x86600,
  0x8679e, 0x867d4, 0x86800, 0x86921, 0x86946, 0x86982, 0x869d6, 0x87304, 0x873fe, 0x87400, 0x87556, 0x87559,
  0x8756f, 0x87576, 0x87580, 0x87596, 0x87800, 0x878ec, 0x87938, 0x87946, 0x87980, 0x87a31, 0x87a8c, 0x87aaf,
  0x87ad6, 0x87b80, 0x87c11, 0x87c37, 0x87c56, 0x87d80, 0x87e2c, 0x87e66, 0x87f00, 0x87fbe, 0x88001, 0x88018,
  0x881c1, 0x8823f, 0x88276, 0x88294, 0x88332, 0x88381, 0x88388, 0x88399, 0x883a8, 0x883b6, 0x883f9, 0x88418,
  0x88581, 0x885df, 0x885ee, 0x885f7, 0x88611, 0x8861e, 0x88680, 0x8874e, 0x88782, 0x887d6, 0x88801, 0x88818,
  0x88939, 0x889ae, 0x889b2, 0x88a07, 0x88a20, 0x88a29, 0x88a38, 0x88a46, 0x88a80, 0x88b99, 0x88ba7, 0x88bb0,
  0x88bbe, 0x88c01, 0x88c18, 0x88d99, 0x88e08, 0x88e2f, 0x88e49, 0x88e6f, 0x88e71, 0x88e82, 0x88ed0, 0x88edf,
  0x88ee0, 0x88eef, 0x88f06, 0x88f0c, 0x88fae, 0x89000, 0x89096, 0x89098, 0x89161, 0x891c7, 0x891f1, 0x891fe,
  0x89400, 0x8943e, 0x89440, 0x8944e, 0x89450, 0x89476, 0x89478, 0x894f6, 0x894f8, 0x8954f, 0x89556, 0x89580,
  0x896f9, 0x8975e, 0x89782, 0x897d6, 0x89801, 0x89826, 0x89828, 0x8986e, 0x89878, 0x8988e, 0x89898, 0x8994e,
  0x89950, 0x8998e, 0x89990, 0x899a6, 0x899a8, 0x899d6, 0x899d9, 0x899e8, 0x899f1, 0x89a2e, 0x89a39, 0x89a4e,
  0x89a59, 0x89a76, 0x89a80, 0x89a8e, 0x89ab9, 0x89ac6, 0x89ae8, 0x89b11, 0x89b26, 0x89b31, 0x89b6e, 0x89b81,
  0x89bae, 0x8a000, 0x8a1a9, 0x8a238, 0x8a25f, 0x8a282, 0x8a2d7, 0x8a2e6, 0x8a2ef, 0x8a2f1, 0x8a2f8, 0x8a316,
  0x8a400, 0x8a581, 0x8a620, 0x8a637, 0x8a638, 0x8a646, 0x8a682, 0x8a6d6, 0x8ac00, 0x8ad79, 0x8adb6, 0x8adc1,
  0x8ae0f, 0x8aec0, 0x8aee1, 0x8aef6, 0x8b000, 0x8b181, 0x8b20f, 0x8b220, 0x8b22e, 0x8b282, 0x8b2d6, 0x8b307,
  0x8b36e, 0x8b400, 0x8b559, 0x8b5c0, 0x8b5cf, 0x8b5d6, 0x8b602, 0x8b656, 0x8b800, 0x8b8de, 0x8b8e9, 0x8b966,
  0x8b982, 0x8b9d4, 0x8b9e7, 0x8ba00, 0x8ba3e, 0x8c000, 0x8c161, 0x8c1df, 0x8c1e6, 0x8c500, 0x8c702, 0x8c754,
  0x8c79e, 0x8c7f8, 0x8c83e, 0x8c848, 0x8c856, 0x8c860, 0x8c8a6, 0x8c8a8, 0x8c8be, 0x8c8c0, 0x8c981, 0x8c9b6,
  0x8c9b9, 0x8c9ce, 0x8c9d9, 0x8c9f8, 0x8ca01, 0x8ca08, 0x8ca11, 0x8ca27, 0x8ca3e, 0x8ca82, 0x8cad6, 0x8cd00,
  0x8cd46, 0x8cd50, 0x8ce89, 0x8cec6, 0x8ced1, 0x8cf08, 0x8cf17, 0x8cf18, 0x8cf21, 0x8cf2e, 0x8d000, 0x8d009,
  0x8d058, 0x8d199, 0x8d1d0, 0x8d1d9, 0x8d1ff, 0x8d239, 0x8d246, 0x8d280, 0x8d289, 0x8d2e0, 0x8d451, 0x8d4d7,
  0x8d4e8, 0x8d4f7, 0x8d51e, 0x8d580, 0x8d7ce, 0x8e000, 0x8e04e, 0x8e050, 0x8e179, 0x8e1be, 0x8e1c1, 0x8e200,
  0x8e20f, 0x8e236, 0x8e282, 0x8e2d4, 0x8e36e, 0x8e387, 0x8e390, 0x8e486, 0x8e491, 0x8e546, 0x8e549, 0x8e5be,
  0x8e800, 0x8e83e, 0x8e840, 0x8e856, 0x8e858, 0x8e989, 0x8e9be, 0x8e9d1, 0x8e9de, 0x8e9e1, 0x8e9f6, 0x8e9f9,
  0x8ea30, 0x8ea39, 0x8ea46, 0x8ea82, 0x8ead6, 0x8eb00, 0x8eb36, 0x8eb38, 0x8eb4e, 0x8eb50, 0x8ec51, 0x8ec7e,
  0x8ec81, 0x8ec96, 0x8ec99, 0x8ecc0, 0x8ecce, 0x8ed02, 0x8ed56, 0x8f700, 0x8f799, 0x8f7bf, 0x8f7ce, 0x8fd80,
  0x8fd8e, 0x8fe04, 0x8feaf, 0x8ff96, 0x8ffff, 0x90000, 0x91cd6, 0x92003, 0x9237e, 0x92387, 0x923ae, 0x92400,
  0x92a26, 0x97c80, 0x97f8f, 0x97f9e, 0x98000, 0x9a17e, 0xa2000, 0xa323e, 0xb4000, 0xb51ce, 0xb5200, 0xb52fe,
  0xb5302, 0xb5356, 0xb5377, 0xb5380, 0xb55fe, 0xb5602, 0xb5656, 0xb5680, 0xb5776, 0xb5781, 0xb57af, 0xb57b6,
  0xb5800, 0xb5981, 0xb59bf, 0xb5a00, 0xb5a27, 0xb5a36, 0xb5a82, 0xb5ad6, 0xb5adc, 0xb5b16, 0xb5b18, 0xb5bc6,
  0xb5be8, 0xb5c86, 0xb7200, 0xb7404, 0xb74bf, 0xb74de, 0xb7800, 0xb7a5e, 0xb7a79, 0xb7a80, 0xb7a89, 0xb7c46,
  0xb7c79, 0xb7c98, 0xb7d06, 0xb7f00, 0xb7f17, 0xb7f18, 0xb7f21, 0xb7f2e, 0xb7f81, 0xb7f96, 0xb8000, 0xc3fc6,
  0xc4000, 0xc66b6, 0xc6800, 0xc684e, 0xd7f80, 0xd7fa6, 0xd7fa8, 0xd7fe6, 0xd7fe8, 0xd7ffe, 0xd8000, 0xd891e,
  0xd8a80, 0xd8a9e, 0xd8b20, 0xd8b46, 0xd8b80, 0xd97e6, 0xde000, 0xde35e, 0xde380, 0xde3ee, 0xde400, 0xde44e,
  0xde480, 0xde4d6, 0xde4e7, 0xde4e9, 0xde4ff, 0xde506, 0xe7801, 0xe7976, 0xe7981, 0xe7a3e, 0xe7a87, 0xe7e26,
  0xe8007, 0xe87b6, 0xe8807, 0xe893e, 0xe894f, 0xe8b29, 0xe8b57, 0xe8b69, 0xe8b9e, 0xe8bd9, 0xe8c1f, 0xe8c29,
  0xe8c67, 0xe8d51, 0xe8d77, 0xe8f5e, 0xe9007, 0xe9211, 0xe922f, 0xe9236, 0xe9704, 0xe97a6, 0xe9807, 0xe9abe,
  0xe9b04, 0xe9bce, 0xea000, 0xea2ae, 0xea2b0, 0xea4ee, 0xea4f0, 0xea506, 0xea510, 0xea51e, 0xea528, 0xea53e,
  0xea548, 0xea56e, 0xea570, 0xea5d6, 0xea5d8, 0xea5e6, 0xea5e8, 0xea626, 0xea628, 0xea836, 0xea838, 0xea85e,
  0xea868, 0xea8ae, 0xea8b0, 0xea8ee, 0xea8f0, 0xea9d6, 0xea9d8, 0xea9fe, 0xeaa00, 0xeaa2e, 0xeaa30, 0xeaa3e,
  0xeaa50, 0xeaa8e, 0xeaa90, 0xeb536, 0xeb540, 0xeb60f, 0xeb610, 0xeb6df, 0xeb6e0, 0xeb7df, 0xeb7e0, 0xeb8af,
  0xeb8b0, 0xeb9af, 0xeb9b0, 0xeba7f, 0xeba80, 0xebb7f, 0xebb80, 0xebc4f, 0xebc50, 0xebd4f, 0xebd50, 0xebe1f,
  0xebe20, 0xebe66, 0xebe72, 0xec007, 0xed001, 0xed1bf, 0xed1d9, 0xed36f, 0xed3a9, 0xed3b7, 0xed421, 0xed42f,
  0xed466, 0xed4d9, 0xed506, 0xed509, 0xed586, 0xef800, 0xef8fe, 0xf0001, 0xf003e, 0xf0041, 0xf00ce, 0xf00d9,
  0xf0116, 0xf0119, 0xf012e, 0xf0131, 0xf015e, 0xf0800, 0xf096e, 0xf0981, 0xf09b8, 0xf09f6, 0xf0a02, 0xf0a56,
  0xf0a70, 0xf0a7f, 0xf0a86, 0xf1480, 0xf1571, 0xf157e, 0xf1600, 0xf1761, 0xf1782, 0xf17d6, 0xf17ff, 0xf1806,
  0xf3f00, 0xf3f3e, 0xf3f40, 0xf3f66, 0xf3f68, 0xf3f7e, 0xf3f80, 0xf3ffe, 0xf4000, 0xf462e, 0xf463c, 0xf4681,
  0xf46be, 0xf4800, 0xf4a21, 0xf4a58, 0xf4a66, 0xf4a82, 0xf4ad6, 0xf4af7, 0xf4b06, 0xf638c, 0xf6567, 0xf656c,
  0xf6587, 0xf658c, 0xf65ae, 0xf680c, 0xf6977, 0xf697c, 0xf69f6, 0xf7000, 0xf7026, 0xf7028, 0xf7106, 0xf7108,
  0xf711e, 0xf7120, 0xf712e, 0xf7138, 0xf7146, 0xf7148, 0xf719e, 0xf71a0, 0xf71c6, 0xf71c8, 0xf71d6, 0xf71d8,
  0xf71e6, 0xf7210, 0xf721e, 0xf7238, 0xf7246, 0xf7248, 0xf7256, 0xf7258, 0xf7266, 0xf7268, 0xf7286, 0xf7288,
  0xf729e, 0xf72a0, 0xf72ae, 0xf72b8, 0xf72c6, 0xf72c8, 0xf72d6, 0xf72d8, 0xf72e6, 0xf72e8, 0xf72f6, 0xf72f8,
  0xf7306, 0xf7308, 0xf731e, 0xf7320, 0xf732e, 0xf7338, 0xf735e, 0xf7360, 0xf739e, 0xf73a0, 0xf73c6, 0xf73c8,
  0xf73ee, 0xf73f0, 0xf73fe, 0xf7400, 0xf7456, 0xf7458, 0xf74e6, 0xf7508, 0xf7526, 0xf7528, 0xf7556, 0xf7558,
  0xf75e6, 0xf7787, 0xf7796, 0xf8007, 0xf8166, 0xf8187, 0xf84a6, 0xf8507, 0xf857e, 0xf858f, 0xf8606, 0xf860f,
  0xf8686, 0xf868f, 0xf87b6, 0xf8804, 0xf886f, 0xf8d76, 0xf8f37, 0xf901e, 0xf9087, 0xf91e6, 0xf9207, 0xf924e,
  0xf9287, 0xf9296, 0xf9307, 0xf9336, 0xf9807, 0xfb6c6, 0xfb6ef, 0xfb76e, 0xfb787, 0xfb7ee, 0xfb807, 0xfbba6,
  0xfbc07, 0xfbece, 0xfbf07, 0xfbf66, 0xfbf87, 0xfbf8e, 0xfc007, 0xfc066, 0xfc087, 0xfc246, 0xfc287, 0xfc2d6,
  0xfc307, 0xfc446, 0xfc487, 0xfc576, 0xfc587, 0xfc596, 0xfc807, 0xfd2a6, 0xfd307, 0xfd376, 0xfd387, 0xfd3ae,
  0xfd3c7, 0xfd3ee, 0xfd407, 0xfd43e, 0xfd487, 0xfd56e, 0xfd587, 0xfd5de, 0xfd607, 0xfd636, 0xfd687, 0xfd6d6,
  0xfd707, 0xfd746, 0xfd787, 0xfd7be, 0xfd807, 0xfdc9e, 0xfdca7, 0xfde5e, 0xfdf82, 0xfdfd6, 0x100000, 0x153706,
  0x153800, 0x15b9ce, 0x15ba00, 0x15c0f6, 0x15c100, 0x167516, 0x167580, 0x175f0e, 0x17c000, 0x17d0f6, 0x180000, 0x189a5e,
  0x700801, 0x700f86]

end HttpContract.Text.CategoryTable
